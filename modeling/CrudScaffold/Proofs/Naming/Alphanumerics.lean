import CrudScaffold.Proofs.Naming.Identifiers

/-!
# What the case conversions keep

Snake case, the words of an identifier and its human title all keep exactly the ASCII
letters and digits of the text, in order and in lower case (`alnumKey`), and drop everything
else: other characters, whatever their script, only mark where words end.

* Snake case is empty or words of lower-case letters and digits joined by single underscores
  (`SnakeCase`), and without its underscores it is the text's key (`filter_snake`). So snake
  case is idempotent, and empty exactly when the text has no ASCII letter or digit.
* Every word is a non-empty run of lower-case letters or of digits, and the words together
  are the key (`flatten_words`).
* The title is the words with a capital first, joined by single spaces, so without its spaces
  and in lower case it is the key again.

The passes of snake case only insert underscores, and the cut at non-alphanumeric characters
drops exactly those (`filter_breakCapitalRuns`, `flatten_splitWhen`). The word scanner moves
each letter or digit into the word it is reading, and closes a word only when it is non-empty
and of one kind (`scanWords_isWord`).
-/

namespace CrudScaffold.Text

/-- The pieces of a cut, put back together, are the characters that were kept. -/
theorem flatten_splitWhen (p : Char → Bool) (cs : List Char) :
    (splitWhen p cs).flatten = cs.filter (fun c => !p c) := by
  induction cs with
  | nil => simp [splitWhen]
  | cons c cs ih =>
    by_cases hc : p c
    · simp [splitWhen, hc, ih]
    · have hkeep : (c :: cs).filter (fun c => !p c) = c :: cs.filter (fun c => !p c) := by
        simp [hc]
      rw [hkeep, ← ih]
      simp only [splitWhen, hc, Bool.false_eq_true, if_false]
      split <;> simp_all

/-- A list without separators is one piece. -/
theorem splitWhen_of_all {p : Char → Bool} :
    ∀ {w : List Char}, w.all (fun c => !p c) → splitWhen p w = [w]
  | [], _ => rfl
  | c :: w, h => by
    simp only [List.all_cons, Bool.and_eq_true, Bool.not_eq_true'] at h
    simp [splitWhen, h.1, splitWhen_of_all h.2]

/-- A piece followed by a separator is cut off whole. -/
theorem splitWhen_append_sep {p : Char → Bool} {sep : Char} (hsep : p sep) (rest : List Char) :
    ∀ {w : List Char}, w.all (fun c => !p c) →
      splitWhen p (w ++ sep :: rest) = w :: splitWhen p rest
  | [], _ => by simp [splitWhen, hsep]
  | c :: w, h => by
    simp only [List.all_cons, Bool.and_eq_true, Bool.not_eq_true'] at h
    simp [splitWhen, h.1, splitWhen_append_sep hsep rest h.2]

/-- Cutting pieces joined by a separator gives the pieces back. -/
theorem splitWhen_intercalate {p : Char → Bool} {sep : Char} (hsep : p sep) :
    ∀ {ws : List (List Char)}, ws ≠ [] → (∀ w ∈ ws, w.all (fun c => !p c)) →
      splitWhen p ([sep].intercalate ws) = ws
  | [w], _, h => by simpa using splitWhen_of_all (h w (by simp))
  | w :: w' :: ws, _, h => by
    rw [List.intercalate_cons_cons, List.append_assoc, List.singleton_append,
      splitWhen_append_sep hsep _ (h w (by simp)),
      splitWhen_intercalate hsep (List.cons_ne_nil w' ws) fun v hv => h v (by simp [hv])]

/-- Joining the pieces of a cut at `sep` by `sep` gives the text back. -/
theorem intercalate_splitWhen (sep : Char) :
    ∀ cs : List Char, [sep].intercalate (splitWhen (· == sep) cs) = cs
  | [] => rfl
  | c :: cs => by
    have ih := intercalate_splitWhen sep cs
    by_cases hc : c = sep
    · subst hc
      obtain ⟨w, ws, hws⟩ := List.exists_cons_of_ne_nil (splitWhen_ne_nil (· == c) cs)
      rw [hws] at ih
      simp [splitWhen, hws, ih]
    · have hc' : (c == sep) = false := by simpa using hc
      simp only [splitWhen, hc', Bool.false_eq_true, if_false]
      split
      · rename_i h
        rw [h] at ih
        simp [← ih]
      · rename_i w ws h
        rw [h] at ih
        rw [List.intercalate_cons_cons_left, ih]

theorem filter_ne_of_not_mem {sep : Char} {w : List Char} (h : sep ∉ w) :
    w.filter (· ≠ sep) = w :=
  List.filter_eq_self.2 fun c hc => by
    simp only [ne_eq, decide_eq_true_eq]
    rintro rfl
    exact h hc

/-- Deleting the separators of pieces joined by it gives the pieces together. -/
theorem filter_intercalate (sep : Char) :
    ∀ {ws : List (List Char)}, (∀ w ∈ ws, sep ∉ w) →
      ([sep].intercalate ws).filter (· ≠ sep) = ws.flatten
  | [], _ => rfl
  | [w], h => by simpa using filter_ne_of_not_mem (h w (by simp))
  | w :: w' :: ws, h => by
    rw [List.intercalate_cons_cons, List.filter_append, List.filter_append,
      filter_ne_of_not_mem (h w (by simp)), filter_intercalate sep fun v hv => h v (by simp [hv])]
    simp

end CrudScaffold.Text

namespace CrudScaffold.Naming

open CrudScaffold.Text

/-- The letters and digits of a text, in order and in lower case: what every case conversion
keeps of it. -/
def alnumKey (cs : List Char) : List Char := (cs.filter Char.isAlphanum).map Char.toLower

/-- Lower-case ASCII letters and digits. -/
def isLowerAlnum (c : Char) : Bool := c.isLower || c.isDigit

/-- Snake case as the pattern `[a-z0-9]+(_[a-z0-9]+)*` reads: lower-case letters and digits,
with single underscores between them, neither first nor last. -/
inductive SnakeCase : List Char → Prop where
  | single {c : Char} : isLowerAlnum c → SnakeCase [c]
  | cons {c : Char} {rest : List Char} : isLowerAlnum c → SnakeCase rest → SnakeCase (c :: rest)
  | underscore {c : Char} {rest : List Char} :
      isLowerAlnum c → SnakeCase rest → SnakeCase (c :: '_' :: rest)

/-! ## The passes of snake case insert underscores only -/

theorem isAlphanum_eq (c : Char) : c.isAlphanum = (c.isUpper || c.isLower || c.isDigit) := rfl

theorem isAlphanum_underscore : '_'.isAlphanum = false := by decide

theorem filter_breakCapitalRuns (cs run : List Char) :
    (breakCapitalRuns cs run).filter Char.isAlphanum =
      (run.reverse ++ cs).filter Char.isAlphanum := by
  fun_induction breakCapitalRuns cs run <;>
    simp_all [List.filter_append, List.filter_cons, isAlphanum_underscore]

theorem filter_breakBeforeCapitals (cs : List Char) :
    (breakBeforeCapitals cs).filter Char.isAlphanum = cs.filter Char.isAlphanum := by
  fun_induction breakBeforeCapitals cs <;> simp_all [List.filter_cons, isAlphanum_underscore]

/-- Without capitals the first pass changes nothing. -/
theorem breakCapitalRuns_of_no_upper :
    ∀ {cs : List Char}, (∀ c ∈ cs, c.isUpper = false) → breakCapitalRuns cs [] = cs
  | [], _ => rfl
  | c :: cs, h => by
    have hc : c.isUpper = false := h c (by simp)
    have ih := breakCapitalRuns_of_no_upper fun x hx => h x (List.mem_cons_of_mem c hx)
    by_cases hl : c.isLower <;> simp [breakCapitalRuns, hc, hl, ih]

/-- Without capitals the second pass changes nothing. -/
theorem breakBeforeCapitals_of_no_upper :
    ∀ {cs : List Char}, (∀ c ∈ cs, c.isUpper = false) → breakBeforeCapitals cs = cs
  | [], _ => rfl
  | [c], _ => rfl
  | a :: b :: cs, h => by
    have hb : b.isUpper = false := h b (by simp)
    have ih := @breakBeforeCapitals_of_no_upper (b :: cs)
      fun x hx => h x (List.mem_cons_of_mem a hx)
    rw [breakBeforeCapitals]
    simp [hb, ih]

/-! ## Snake case -/

/-- The pieces of snake case together are the letters and digits of the text. -/
theorem flatten_snakePieces (cs : List Char) :
    (snakePieces cs).flatten = cs.filter Char.isAlphanum := by
  rw [snakePieces, List.flatten_filter_ne_nil, flatten_splitWhen]
  simp only [Bool.not_not]
  rw [filter_breakBeforeCapitals, filter_breakCapitalRuns, List.reverse_nil, List.nil_append]

/-- Every piece of snake case is a non-empty run of letters and digits. -/
theorem snakePieces_word {cs w : List Char} (hw : w ∈ snakePieces cs) :
    w ≠ [] ∧ w.all Char.isAlphanum := by
  obtain ⟨hmem, hne⟩ := List.mem_filter.1 hw
  refine ⟨by simpa using hne, ?_⟩
  simpa using splitWhen_pieces (fun c => !c.isAlphanum) _ w hmem

/-- Letters and digits in lower case are lower-case letters and digits. -/
theorem isLowerAlnum_toLower {c : Char} (h : c.isAlphanum) : isLowerAlnum c.toLower := by
  have := isIdentChar_toLower h
  have hne : c.toLower ≠ '_' := by
    intro he
    by_cases hu : c.isUpper
    · have := isLower_toLower hu
      rw [he] at this
      exact absurd this (by decide)
    · rw [toLower_of_not_isUpper (by simpa using hu)] at he
      rw [he] at h
      exact absurd h (by decide)
  simpa [isIdentChar, isLowerAlnum, hne] using this

theorem toLower_of_isLowerAlnum {c : Char} (h : isLowerAlnum c) : c.toLower = c := by
  apply toLower_of_not_isUpper
  simp only [isLowerAlnum, Bool.or_eq_true] at h
  rcases h with h | h
  · exact isUpper_of_isLower h
  · have := Char.isDigit_iff_toNat.1 h
    exact isUpper_eq_false (by simp at this; omega)

theorem snake_toList (s : String) :
    (snake s).toList = ['_'].intercalate ((snakePieces s.toList).map (·.map Char.toLower)) := by
  rw [snake, String.toList_ofList]
  -- lower-casing keeps underscores, so it goes inside the pieces
  generalize snakePieces s.toList = ws
  induction ws with
  | nil => rfl
  | cons w ws ih =>
    cases ws with
    | nil => simp
    | cons w' ws => simp_all [List.intercalate_cons_cons]

theorem snakeCase_word_append {rest : List Char} (hr : SnakeCase rest) :
    ∀ {w : List Char}, w ≠ [] → w.all isLowerAlnum → SnakeCase (w ++ '_' :: rest)
  | [c], _, h => .underscore (by simpa using h) hr
  | c :: c' :: w, _, h => by
    simp only [List.all_cons, Bool.and_eq_true] at h
    exact .cons h.1 (snakeCase_word_append hr (List.cons_ne_nil c' w) (by simp [h.2.1, h.2.2]))

theorem snakeCase_word : ∀ {w : List Char}, w ≠ [] → w.all isLowerAlnum → SnakeCase w
  | [c], _, h => .single (by simpa using h)
  | c :: c' :: w, _, h => by
    simp only [List.all_cons, Bool.and_eq_true] at h
    exact .cons h.1 (snakeCase_word (List.cons_ne_nil c' w) (by simp [h.2.1, h.2.2]))

/-- Non-empty words of lower-case letters and digits joined by underscores are snake case. -/
theorem snakeCase_intercalate :
    ∀ {ws : List (List Char)}, ws ≠ [] → (∀ w ∈ ws, w ≠ [] ∧ w.all isLowerAlnum) →
      SnakeCase (['_'].intercalate ws)
  | [w], _, h => by simpa using snakeCase_word (h w (by simp)).1 (h w (by simp)).2
  | w :: w' :: ws, _, h => by
    rw [List.intercalate_cons_cons, List.append_assoc, List.singleton_append]
    exact snakeCase_word_append
      (snakeCase_intercalate (List.cons_ne_nil w' ws) fun v hv => h v (by simp [hv]))
      (h w (by simp)).1 (h w (by simp)).2

/-- The lower-cased pieces of snake case: non-empty words of lower-case letters and digits. -/
theorem lowerPieces_word {cs w : List Char} (hw : w ∈ (snakePieces cs).map (·.map Char.toLower)) :
    w ≠ [] ∧ w.all isLowerAlnum := by
  obtain ⟨v, hv, rfl⟩ := List.mem_map.1 hw
  obtain ⟨hne, hall⟩ := snakePieces_word hv
  refine ⟨by simpa using hne, ?_⟩
  rw [List.all_map, List.all_eq_true]
  intro c hc
  exact isLowerAlnum_toLower (List.all_eq_true.1 hall c hc)

theorem snake_eq_empty_or {s : String} :
    (snake s).toList = [] ∨ SnakeCase (snake s).toList := by
  rw [snake_toList]
  by_cases hne : snakePieces s.toList = []
  · left
    rw [hne]
    rfl
  · right
    exact snakeCase_intercalate (by simpa using hne) fun w hw => lowerPieces_word hw

/-- Snake case without its underscores is the key of the text. -/
theorem filter_snake (s : String) : (snake s).toList.filter (· ≠ '_') = alnumKey s.toList := by
  have hnone : ∀ w ∈ (snakePieces s.toList).map (·.map Char.toLower), '_' ∉ w := by
    intro w hw hu
    have := List.all_eq_true.1 (lowerPieces_word hw).2 '_' hu
    exact absurd this (by decide)
  rw [snake_toList, filter_intercalate '_' hnone, ← List.map_flatten, flatten_snakePieces,
    alnumKey]

/-- Snake case of words already in snake case changes nothing. -/
theorem snake_of_words {t : String} {ws : List (List Char)} (ht : t.toList = ['_'].intercalate ws)
    (hw : ∀ w ∈ ws, w ≠ [] ∧ w.all isLowerAlnum) : snake t = t := by
  by_cases hne : ws = []
  · subst hne
    rw [List.intercalate_nil, String.toList_eq_nil_iff] at ht
    subst ht
    rfl
  have hident : t.toList.all isIdentChar := by
    rw [ht]
    apply all_intercalate (by decide)
    intro w hw'
    rw [List.all_eq_true]
    intro c hc
    have hc' : isLowerAlnum c = true := List.all_eq_true.1 (hw w hw').2 c hc
    show (isLowerAlnum c || c == '_') = true
    rw [hc', Bool.true_or]
  -- the text holds no capital, so the two passes keep it and lower-casing changes nothing
  have hnoup : ∀ c ∈ t.toList, c.isUpper = false :=
    fun c hc => (toNat_lt_of_isIdentChar (List.all_eq_true.1 hident c hc)).2
  have halnum : ∀ w ∈ ws, w.all (fun c => !!c.isAlphanum) := by
    intro w hw'
    have := (hw w hw').2
    simp only [List.all_eq_true, isLowerAlnum, Bool.or_eq_true, Bool.not_not] at this ⊢
    intro c hc
    rcases this c hc with h | h <;> simp [isAlphanum_eq, h]
  have hpieces : snakePieces t.toList = ws := by
    rw [snakePieces, breakCapitalRuns_of_no_upper hnoup, breakBeforeCapitals_of_no_upper hnoup,
      ht, splitWhen_intercalate (by decide) hne halnum]
    exact List.filter_eq_self.2 fun w hw' => by simpa using (hw w hw').1
  rw [snake, hpieces, ← ht, List.map_congr_left fun c hc => toLower_of_not_isUpper (hnoup c hc),
    List.map_id', String.ofList_toList]

/-- Snake case is idempotent. -/
theorem snake_snake (s : String) : snake (snake s) = snake s :=
  snake_of_words (snake_toList s) fun _ hw => lowerPieces_word hw

/-- Snake case is empty exactly when the text has no ASCII letter or digit. -/
theorem snake_eq_empty_iff (s : String) :
    snake s = "" ↔ ∀ c ∈ s.toList, c.isAlphanum = false := by
  constructor
  · intro h
    have hkey := filter_snake s
    rw [h, String.toList_empty, List.filter_nil, eq_comm, alnumKey, List.map_eq_nil_iff,
      List.filter_eq_nil_iff] at hkey
    simpa using hkey
  · intro h
    -- no letter or digit leaves no piece, as every piece is a non-empty run of them
    have hflat : (snakePieces s.toList).flatten = [] := by
      rw [flatten_snakePieces, List.filter_eq_nil_iff]
      simpa using h
    have hnil : snakePieces s.toList = [] :=
      List.eq_nil_iff_forall_not_mem.2 fun w hw =>
        (snakePieces_word hw).1 (List.flatten_eq_nil_iff.1 hflat w hw)
    rw [← String.toList_inj, snake_toList, hnil]
    rfl

/-! ## Words -/

/-- The characters a word being read of this kind holds: none between words. -/
def WordKind.fits : WordKind → Char → Bool
  | .gap, _ => false
  | .digits, c => c.isDigit
  | .lower, c => c.isAlpha
  | .upper, c => c.isAlpha

/-- A word as the scanner closes it: non-empty, and letters only or digits only. -/
def IsWord (w : List Char) : Prop := w ≠ [] ∧ (w.all Char.isAlpha ∨ w.all Char.isDigit)

theorem flatten_closeWord (cur : List Char) (rest : List (List Char)) :
    (closeWord cur rest).flatten = cur.reverse ++ rest.flatten := by
  unfold closeWord
  split
  · rename_i h
    simp [List.isEmpty_iff.1 h]
  · simp

theorem mem_closeWord {w cur : List Char} {rest : List (List Char)}
    (h : w ∈ closeWord cur rest) : (cur ≠ [] ∧ w = cur.reverse) ∨ w ∈ rest := by
  unfold closeWord at h
  split at h
  · exact Or.inr h
  · rename_i hne
    rcases List.mem_cons.1 h with rfl | h
    · exact Or.inl ⟨by simpa using hne, rfl⟩
    · exact Or.inr h

/-- A word read so far, once closed, is a word. -/
theorem isWord_reverse {k : WordKind} {cur : List Char} (h : cur.all k.fits) (hne : cur ≠ []) :
    IsWord cur.reverse := by
  refine ⟨by simpa using hne, ?_⟩
  cases k with
  | gap =>
    obtain ⟨c, rest, rfl⟩ := List.exists_cons_of_ne_nil hne
    simp [WordKind.fits] at h
  | digits => exact Or.inr (by simpa [WordKind.fits] using h)
  | lower => exact Or.inl (by simpa [WordKind.fits] using h)
  | upper => exact Or.inl (by simpa [WordKind.fits] using h)

theorem closeWord_isWord {k : WordKind} {cur : List Char} {rest : List (List Char)}
    (hcur : cur.all k.fits) (hrest : ∀ w ∈ rest, IsWord w) :
    ∀ w ∈ closeWord cur rest, IsWord w := by
  intro w hw
  rcases mem_closeWord hw with ⟨hne, rfl⟩ | hw
  · exact isWord_reverse hcur hne
  · exact hrest w hw

theorem isAlpha_of_isLower {c : Char} (h : c.isLower) : c.isAlpha := by
  rw [isAlpha_eq, h, Bool.or_true]

theorem isAlpha_of_isUpper {c : Char} (h : c.isUpper) : c.isAlpha := by
  rw [isAlpha_eq, h, Bool.true_or]

/-- The scanner closes only words: it keeps every letter with letters and every digit with
digits, and a word it was reading is non-empty and of its kind. -/
theorem scanWords_isWord (cs : List Char) (k : WordKind) (cur : List Char) :
    cur.all k.fits → ∀ w ∈ scanWords cs k cur, IsWord w := by
  fun_induction scanWords cs k cur with
  | case1 k cur => exact fun hcur => closeWord_isWord hcur (by simp)
  | case2 c cs cur hd ih =>
    intro hcur
    exact ih (by rw [List.all_cons, hcur, Bool.and_true]; exact hd)
  | case3 c cs k cur hd _ ih =>
    exact fun hcur => closeWord_isWord hcur (ih (by simp [WordKind.fits, hd]))
  | case4 c cs cur _ hl ih =>
    intro hcur
    exact ih (by rw [List.all_cons, hcur, Bool.and_true]; exact isAlpha_of_isLower hl)
  | case5 c cs _ hl u ih =>
    intro hcur
    have hu : u.isAlpha := by simpa [WordKind.fits] using hcur
    exact ih (by simp [WordKind.fits, isAlpha_of_isLower hl, hu])
  | case6 c cs _ hl u head tail ih =>
    -- the run of capitals gives its last letter to the lower-case word
    intro hcur
    rw [List.all_cons, Bool.and_eq_true] at hcur
    have hu : u.isAlpha := hcur.1
    exact closeWord_isWord hcur.2 (ih (by simp [WordKind.fits, isAlpha_of_isLower hl, hu]))
  | case7 c cs k cur _ hl _ _ _ ih =>
    exact fun hcur => closeWord_isWord hcur (ih (by simp [WordKind.fits, isAlpha_of_isLower hl]))
  | case8 c cs cur _ _ hu ih =>
    intro hcur
    exact ih (by rw [List.all_cons, hcur, Bool.and_true]; exact isAlpha_of_isUpper hu)
  | case9 c cs k cur _ _ hu _ ih =>
    exact fun hcur => closeWord_isWord hcur (ih (by simp [WordKind.fits, isAlpha_of_isUpper hu]))
  | case10 c cs k cur _ _ _ ih => exact fun hcur => closeWord_isWord hcur (ih rfl)

/-- The scanner loses no letter or digit and adds nothing: its words together are the word it
was reading followed by the letters and digits still to come. -/
theorem flatten_scanWords (cs : List Char) (k : WordKind) (cur : List Char) :
    (scanWords cs k cur).flatten = cur.reverse ++ cs.filter Char.isAlphanum := by
  fun_induction scanWords cs k cur <;>
    simp_all [flatten_closeWord, isAlphanum_eq]

theorem words_toList (s : String) :
    (words s).map String.toList = (scanWords s.toList .gap []).map (·.map Char.toLower) := by
  simp [words, Function.comp_def]

/-- The words together are the letters and digits of the text, in lower case. -/
theorem flatten_words (s : String) :
    ((words s).map String.toList).flatten = alnumKey s.toList := by
  rw [words_toList, ← List.map_flatten, flatten_scanWords]
  rfl

theorem isLower_toLower_of_isAlpha {c : Char} (h : c.isAlpha) : c.toLower.isLower := by
  by_cases hu : c.isUpper
  · exact isLower_toLower hu
  · rw [toLower_of_not_isUpper (by simpa using hu)]
    simpa [isAlpha_eq, hu] using h

theorem isDigit_not_isLower {c : Char} (h : c.isDigit) : c.isLower = false := by
  have := Char.isDigit_iff_toNat.1 h
  rw [Bool.eq_false_iff, ne_eq, isLower_iff]
  simp at this
  omega

/-- Every word is a non-empty run of lower-case letters or of digits. -/
theorem words_word {s w : String} (hw : w ∈ words s) :
    w.toList ≠ [] ∧ (w.toList.all Char.isLower ∨ w.toList.all Char.isDigit) := by
  have hw' : w.toList ∈ (words s).map String.toList := List.mem_map_of_mem hw
  rw [words_toList] at hw'
  obtain ⟨v, hv, hvw⟩ := List.mem_map.1 hw'
  obtain ⟨hne, hkind⟩ := scanWords_isWord _ _ _ rfl v hv
  rw [← hvw]
  refine ⟨by simpa using hne, ?_⟩
  rw [List.all_map, List.all_map]
  rcases hkind with h | h
  · refine Or.inl (List.all_eq_true.2 fun c hc => ?_)
    exact isLower_toLower_of_isAlpha (List.all_eq_true.1 h c hc)
  · refine Or.inr (List.all_eq_true.2 fun c hc => ?_)
    have hd := List.all_eq_true.1 h c hc
    simpa [toLower_of_isLowerAlnum (by simp [isLowerAlnum, hd] : isLowerAlnum c)] using hd

theorem words_lowerAlnum {s w : String} (hw : w ∈ words s) : w.toList.all isLowerAlnum := by
  rcases (words_word hw).2 with h | h <;>
    exact List.all_eq_true.2 fun c hc => by simp [isLowerAlnum, List.all_eq_true.1 h c hc]

/-! ## The title -/

/-- Capitalising a word of lower-case letters and digits upper-cases its first letter only. -/
theorem capitalize_toList {w : String} (hw : w.toList.all isLowerAlnum) :
    (capitalize w).toList = w.toList.modifyHead Char.toUpper := by
  unfold capitalize
  split
  · rename_i h
    simp [h]
  · rename_i c cs h
    rw [h, List.all_cons, Bool.and_eq_true] at hw
    rw [String.toList_ofList, h, List.modifyHead_cons,
      List.map_congr_left fun x hx => toLower_of_isLowerAlnum (List.all_eq_true.1 hw.2 x hx),
      List.map_id']

/-- The title is the words, each with its first letter upper-cased, joined by single spaces. -/
theorem title_toList (s : String) :
    (title s).toList =
      [' '].intercalate ((words s).map fun w => w.toList.modifyHead Char.toUpper) := by
  rw [title, String.toList_intercalate, List.map_map]
  congr 1
  exact List.map_congr_left fun w hw => capitalize_toList (words_lowerAlnum hw)

theorem ne_space_of_isLowerAlnum {c : Char} (h : isLowerAlnum c) : c ≠ ' ' := by
  rintro rfl
  exact absurd h (by decide)

/-- Lower-casing undoes the capital of a word of lower-case letters and digits. -/
theorem map_toLower_modifyHead {w : List Char} (hw : w.all isLowerAlnum) :
    (w.modifyHead Char.toUpper).map Char.toLower = w := by
  cases w with
  | nil => rfl
  | cons c cs =>
    rw [List.all_cons, Bool.and_eq_true] at hw
    have hcs : cs.map Char.toLower = cs :=
      (List.map_congr_left fun x hx => toLower_of_isLowerAlnum (List.all_eq_true.1 hw.2 x hx)).trans
        (List.map_id' cs)
    rw [List.modifyHead_cons, List.map_cons, hcs]
    congr 1
    by_cases hl : c.isLower
    · exact toLower_toUpper hl
    · rw [toUpper_of_not_isLower (by simpa using hl)]
      exact toLower_of_isLowerAlnum hw.1

theorem space_not_mem_modifyHead {w : List Char} (hw : w.all isLowerAlnum) :
    ' ' ∉ w.modifyHead Char.toUpper := by
  cases w with
  | nil => simp
  | cons c cs =>
    rw [List.all_cons, Bool.and_eq_true] at hw
    rw [List.modifyHead_cons, List.mem_cons, not_or]
    refine ⟨fun h => ?_, fun h => ne_space_of_isLowerAlnum (List.all_eq_true.1 hw.2 ' ' h) rfl⟩
    -- the first letter is a capital or a digit, never a space
    by_cases hl : c.isLower
    · have := isUpper_toUpper hl
      rw [← h] at this
      exact absurd this (by decide)
    · rw [toUpper_of_not_isLower (by simpa using hl)] at h
      exact ne_space_of_isLowerAlnum hw.1 h.symm

/-- The title without its spaces, in lower case, is the key of the text. -/
theorem filter_title (s : String) :
    ((title s).toList.filter (· ≠ ' ')).map Char.toLower = alnumKey s.toList := by
  have hnone : ∀ v ∈ (words s).map (fun w => w.toList.modifyHead Char.toUpper), ' ' ∉ v := by
    intro v hv
    obtain ⟨w, hw, rfl⟩ := List.mem_map.1 hv
    exact space_not_mem_modifyHead (words_lowerAlnum hw)
  rw [title_toList, filter_intercalate ' ' hnone, List.map_flatten, List.map_map, ← flatten_words]
  congr 1
  exact List.map_congr_left fun w hw => map_toLower_modifyHead (words_lowerAlnum hw)

/-! ## What every case form keeps -/

/-- Snake case, the words and the title of a text each keep exactly its ASCII letters and
digits, in order and in lower case, in their own shapes; so snake case is idempotent, and
empty exactly when the text has no ASCII letter or digit. -/
theorem caseForms_keep_alnumKey (s : String) :
    ((snake s).toList = [] ∨ SnakeCase (snake s).toList) ∧
    (snake s).toList.filter (· ≠ '_') = alnumKey s.toList ∧
    (∀ w ∈ words s, w.toList ≠ [] ∧ (w.toList.all Char.isLower ∨ w.toList.all Char.isDigit)) ∧
    ((words s).map String.toList).flatten = alnumKey s.toList ∧
    (title s).toList =
      [' '].intercalate ((words s).map fun w => w.toList.modifyHead Char.toUpper) ∧
    ((title s).toList.filter (· ≠ ' ')).map Char.toLower = alnumKey s.toList ∧
    snake (snake s) = snake s ∧
    (snake s = "" ↔ ∀ c ∈ s.toList, c.isAlphanum = false) :=
  ⟨snake_eq_empty_or, filter_snake s, fun _ hw => words_word hw, flatten_words s, title_toList s,
    filter_title s, snake_snake s, snake_eq_empty_iff s⟩

end CrudScaffold.Naming
