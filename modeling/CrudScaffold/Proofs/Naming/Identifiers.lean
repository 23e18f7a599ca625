import CrudScaffold.Method.Names
import CrudScaffold.Proofs.Text.Ascii

/-!
# The identifiers of a generated method

A generated method names the record it handles, the collection of records, the record's key
and, under a parent, the parent record and its key. All are taken from the short name of the
model class: its snake case, its plural, and its snake case followed by `_id`.

For a model whose class name starts with an ASCII capital every one of these is a snake-case
identifier (a lower-case ASCII letter, then lower-case letters, digits and underscores), and
the ones a method binds side by side differ (`resourceNames_wellFormed`):

* snake case keeps only ASCII letters and digits, lower-cased, joined by underscores, and a
  lower-case first letter stays first (`isSnakeIdent_snake`);
* the plural of an identifier is an identifier, and never ends in `d`, so it is never a key
  (`isSnakeIdent_plural`, `getLast?_plural`);
* a parent whose variable would repeat the model's is renamed with a `parent_` prefix, which
  keeps the two keys apart as well.

Nothing keeps the names clear of the words of the generated language, of each other across
model and parent beyond the renaming, or of the names the templates bind themselves: a model
`Class` is named `class`, and a model `Post` under a parent `PostId` has the key `post_id`
that also names the parent.
-/

namespace CrudScaffold.Text

/-- The pieces of a cut hold no separator. -/
theorem splitWhen_pieces (p : Char → Bool) :
    ∀ (cs : List Char), ∀ w ∈ splitWhen p cs, w.all (fun x => !p x)
  | [] => by simp [splitWhen]
  | c :: cs => by
    have ih := splitWhen_pieces p cs
    unfold splitWhen
    split
    · intro w hw
      rcases List.mem_cons.1 hw with rfl | hw
      · rfl
      · exact ih w hw
    · rename_i hc
      split
      · intro w hw
        simp at hw
        subst hw
        simp [hc]
      · rename_i w₀ ws h
        intro w hw
        rcases List.mem_cons.1 hw with rfl | hw
        · have := ih w₀ (by rw [h]; exact List.mem_cons_self ..)
          simp [hc, this]
        · exact ih w (by rw [h]; exact List.mem_cons_of_mem _ hw)

/-- A cut of a list that starts with a kept character starts with a piece that starts with it. -/
theorem splitWhen_head (p : Char → Bool) {c : Char} (hc : p c = false) (cs : List Char) :
    ∃ w ws, splitWhen p (c :: cs) = (c :: w) :: ws := by
  simp only [splitWhen, hc, Bool.false_eq_true, if_false]
  split
  · exact ⟨[], [], rfl⟩
  · exact ⟨_, _, rfl⟩

end CrudScaffold.Text

namespace CrudScaffold.Naming

open CrudScaffold.Text

/-! ### Snake-case identifiers -/

/-- Characters of a snake-case identifier: ASCII lower-case letters, digits and underscores. -/
def isIdentChar (c : Char) : Bool := c.isLower || c.isDigit || c == '_'

/-- A snake-case identifier: an ASCII lower-case letter, then lower-case letters, digits and
underscores. -/
def isSnakeIdent : List Char → Bool
  | c :: rest => c.isLower && rest.all isIdentChar
  | [] => false

theorem isSnakeIdent_cons {c : Char} {rest : List Char} :
    isSnakeIdent (c :: rest) ↔ c.isLower ∧ rest.all isIdentChar := by
  simp [isSnakeIdent]

theorem all_isIdentChar_of_isSnakeIdent {w : List Char} (h : isSnakeIdent w) :
    w.all isIdentChar := by
  cases w with
  | nil => rfl
  | cons c rest =>
    rw [isSnakeIdent_cons] at h
    simp [List.all_cons, isIdentChar, h.1, h.2]

/-- An identifier followed by identifier characters is an identifier. -/
theorem isSnakeIdent_append {a b : List Char} (ha : isSnakeIdent a) (hb : b.all isIdentChar) :
    isSnakeIdent (a ++ b) := by
  cases a with
  | nil => cases ha
  | cons c rest =>
    rw [isSnakeIdent_cons] at ha
    rw [List.cons_append, isSnakeIdent_cons, List.all_append]
    exact ⟨ha.1, by simp [ha.2, hb]⟩

/-- A non-empty prefix of an identifier is an identifier. -/
theorem isSnakeIdent_of_prefix_ne_nil {pre w : List Char} (hp : pre <+: w) (hne : pre ≠ [])
    (hw : isSnakeIdent w) : isSnakeIdent pre := by
  obtain ⟨t, rfl⟩ := hp
  cases pre with
  | nil => exact absurd rfl hne
  | cons c rest =>
    rw [List.cons_append, isSnakeIdent_cons, List.all_append] at hw
    simp only [Bool.and_eq_true] at hw
    exact isSnakeIdent_cons.2 ⟨hw.1, hw.2.1⟩

/-- Identifier characters are ASCII and none is a capital. -/
theorem toNat_lt_of_isIdentChar {c : Char} (h : isIdentChar c) :
    c.toNat < 128 ∧ c.isUpper = false := by
  simp only [isIdentChar, Bool.or_eq_true, beq_iff_eq] at h
  rcases h with (h | h) | rfl
  · have := (isLower_iff c).1 h
    exact ⟨by omega, isUpper_of_isLower h⟩
  · have := Char.isDigit_iff_toNat.1 h
    simp at this
    exact ⟨by omega, isUpper_eq_false (by omega)⟩
  · decide

theorem isIdentChar_toLower {c : Char} (h : c.isAlphanum) : isIdentChar c.toLower := by
  by_cases hu : c.isUpper
  · simp [isIdentChar, isLower_toLower hu]
  · have hu' : c.isUpper = false := by simpa using hu
    rw [toLower_of_not_isUpper hu']
    simp only [Char.isAlphanum, isAlpha_eq, hu', Bool.false_or] at h
    simp [isIdentChar, h]

/-- Identifier characters lower-case to themselves. -/
theorem lowerList_of_ident {w : List Char} (hw : w.all isIdentChar) : lowerList w = w := by
  have hsig : capitalSigma ∉ w := fun h => by
    have := List.all_eq_true.1 hw _ h
    revert this
    decide
  rw [lowerList_of_no_sigma w hsig]
  clear hsig
  induction w with
  | nil => rfl
  | cons x w ih =>
    rw [List.all_cons, Bool.and_eq_true] at hw
    obtain ⟨hlt, hu⟩ := toNat_lt_of_isIdentChar hw.1
    rw [List.flatMap_cons, lowerChar_ascii hlt, toLower_of_not_isUpper hu, ih hw.2]
    rfl

/-! ### Snake case -/

theorem all_intercalate {q : Char → Bool} {sep : List Char} (hs : sep.all q) :
    ∀ (ws : List (List Char)), (∀ w ∈ ws, w.all q) → (sep.intercalate ws).all q
  | [], _ => rfl
  | [w], h => by simpa using h
  | w :: w' :: ws, h => by
    rw [List.intercalate_cons_cons, List.all_append, List.all_append]
    simp only [List.mem_cons, forall_eq_or_imp] at h
    simp [h.1, hs, all_intercalate hs (w' :: ws) (by simpa using h.2)]

theorem head?_intercalate (sep : List Char) {c : Char} (w : List Char) :
    ∀ (ws : List (List Char)), (sep.intercalate ((c :: w) :: ws)).head? = some c
  | [] => rfl
  | w' :: ws => by rw [List.intercalate_cons_cons]; rfl

/-- Snake case writes only lower-case letters, digits and underscores. -/
theorem snake_all (s : String) : (snake s).toList.all isIdentChar := by
  rw [snake, String.toList_ofList, List.all_map]
  apply all_intercalate (by decide)
  intro w hw
  have hp := splitWhen_pieces (fun c => !c.isAlphanum) _ w (List.mem_filter.1 hw).1
  rw [List.all_eq_true] at hp ⊢
  intro x hx
  exact isIdentChar_toLower (by simpa using hp x hx)

/-- Snake case read off its list form, which `decide` evaluates. -/
theorem snake_of_toList {s t : String}
    (h : (List.intercalate ['_'] (snakePieces s.toList)).map Char.toLower = t.toList) :
    snake s = t := by
  rw [snake, h, String.ofList_toList]

/-- Snake case keeps a lower-case first letter in front. -/
theorem snake_head? {c : Char} (hc : c.isLower) (rest : List Char) :
    (snake (String.ofList (c :: rest))).toList.head? = some c := by
  have hu := isUpper_of_isLower hc
  -- each of the three passes of snake case keeps `c` as the first character
  have hruns : breakCapitalRuns (c :: rest) [] = c :: breakCapitalRuns rest [] := by
    simp [breakCapitalRuns, hu, hc]
  have hbefore : ∃ r, breakBeforeCapitals (c :: breakCapitalRuns rest []) = c :: r := by
    cases breakCapitalRuns rest [] with
    | nil => exact ⟨[], by simp [breakBeforeCapitals]⟩
    | cons b r =>
      simp only [breakBeforeCapitals]
      split <;> exact ⟨_, rfl⟩
  obtain ⟨r, hr⟩ := hbefore
  have hal : (!c.isAlphanum) = false := by simp [Char.isAlphanum, isAlpha_eq, hc]
  obtain ⟨w, ws, hw⟩ := splitWhen_head (fun c => !c.isAlphanum) hal r
  rw [snake, String.toList_ofList, String.toList_ofList, snakePieces, hruns, hr, hw,
    List.filter_cons_of_pos (by simp), List.head?_map, head?_intercalate,
    Option.map_some, toLower_of_not_isUpper hu]

theorem isSnakeIdent_snake {c : Char} (hc : c.isLower) (rest : List Char) :
    isSnakeIdent (snake (String.ofList (c :: rest))).toList := by
  have hall := snake_all (String.ofList (c :: rest))
  obtain ⟨r, hr⟩ := List.head?_eq_some_iff.1 (snake_head? hc rest)
  rw [hr] at hall ⊢
  rw [List.all_cons, Bool.and_eq_true] at hall
  exact isSnakeIdent_cons.2 ⟨hc, hall.2⟩

/-! ### Plurals -/

theorem irregularPlurals_shape : ∀ e ∈ irregularPlurals,
    isSnakeIdent e.2.toList ∧ e.2.toList.getLast? ≠ some 'd' := by decide

/-- The usual endings of a plural are identifiers that end in `s`. -/
theorem pluralEndings_shape : ∀ lit ∈ ["es", "ies", "ves", "s"],
    isSnakeIdent lit.toList ∧ lit.toList.getLast? = some 's' := by decide

/-- What the plural of a word of identifier characters can be: an irregular plural, the word
itself when it ends in `s`, or a prefix of the word followed by one of the usual endings. -/
theorem pluralWord_shape {w : List Char} (hw : w.all isIdentChar) (hne : w ≠ []) :
    (∃ e ∈ irregularPlurals, pluralWord w = e.2.toList) ∨
    (pluralWord w = w ∧ w.getLast? = some 's') ∨
    ∃ pre lit, pre <+: w ∧ lit ∈ ["es", "ies", "ves", "s"] ∧
      pluralWord w = pre ++ lit.toList := by
  generalize hr : pluralWord w = r
  unfold pluralWord at hr
  rw [if_neg (by simpa using hne), lowerList_of_ident hw] at hr
  dsimp only at hr
  split at hr
  · rename_i p hp
    obtain ⟨l₁, l₂, hl, -⟩ := List.lookup_eq_some_iff.1 hp
    have hmem : (String.ofList w, p) ∈ irregularPlurals := by rw [hl]; simp
    refine Or.inl ⟨_, hmem, ?_⟩
    obtain ⟨c, rest, rfl⟩ := List.exists_cons_of_ne_nil hne
    -- the word has no capital, so the irregular plural is taken as it stands
    have hup : isUppercase c = false := by
      have hc := List.all_eq_true.1 hw c (List.mem_cons_self ..)
      obtain ⟨hlt, hu⟩ := toNat_lt_of_isIdentChar hc
      rw [isUppercase_ascii hlt, hu]
    split at hr
    · rename_i c' tail q qs hcw hpq
      obtain ⟨rfl, -⟩ := List.cons.inj hcw
      rw [hup, if_neg Bool.false_ne_true] at hr
      rw [← hr, ← hpq]
    · exact hr.symm
  · -- no irregular plural: one of the usual endings, tested on the word itself
    have hdrop : w.dropLast.dropLast <+: w :=
      (List.dropLast_prefix _).trans (List.dropLast_prefix w)
    subst hr
    split
    · rename_i h
      have hsuf : ['s'] <:+ w := List.isSuffixOf_iff_suffix.1 (Bool.and_eq_true_iff.1 h).1
      obtain ⟨t, rfl⟩ := hsuf
      exact Or.inr (Or.inl ⟨rfl, by simp⟩)
    refine Or.inr (Or.inr ?_)
    split
    · exact ⟨w, "es", List.prefix_refl w, by simp, rfl⟩
    split
    · exact ⟨w.dropLast, "ies", List.dropLast_prefix w, by simp, rfl⟩
    split
    · exact ⟨w.dropLast.dropLast, "ves", hdrop, by simp, rfl⟩
    split
    · exact ⟨w.dropLast, "ves", List.dropLast_prefix w, by simp, rfl⟩
    split
    · exact ⟨w, "es", List.prefix_refl w, by simp, rfl⟩
    · exact ⟨w, "s", List.prefix_refl w, by simp, rfl⟩

theorem all_pluralWord {w : List Char} (hw : w.all isIdentChar) :
    (pluralWord w).all isIdentChar := by
  by_cases hne : w = []
  · rw [hne]
    rfl
  rcases pluralWord_shape hw hne with ⟨e, he, h⟩ | ⟨h, -⟩ | ⟨pre, lit, hpre, hlit, h⟩
  · rw [h]
    exact all_isIdentChar_of_isSnakeIdent (irregularPlurals_shape e he).1
  · rw [h]
    exact hw
  · have hend := all_isIdentChar_of_isSnakeIdent (pluralEndings_shape lit hlit).1
    obtain ⟨t, rfl⟩ := hpre
    rw [List.all_append, Bool.and_eq_true] at hw
    simp only [h, List.all_append, hw.1, hend, Bool.and_self]

theorem isSnakeIdent_pluralWord {w : List Char} (hw : isSnakeIdent w) :
    isSnakeIdent (pluralWord w) := by
  have hall := all_isIdentChar_of_isSnakeIdent hw
  have hne : w ≠ [] := by rintro rfl; cases hw
  rcases pluralWord_shape hall hne with ⟨e, he, h⟩ | ⟨h, -⟩ | ⟨pre, lit, hpre, hlit, h⟩
  · rw [h]
    exact (irregularPlurals_shape e he).1
  · rw [h]
    exact hw
  · obtain ⟨hend, -⟩ := pluralEndings_shape lit hlit
    rw [h]
    by_cases hpne : pre = []
    · rw [hpne, List.nil_append]
      exact hend
    · exact isSnakeIdent_append (isSnakeIdent_of_prefix_ne_nil hpre hpne hw)
        (all_isIdentChar_of_isSnakeIdent hend)

theorem getLast?_pluralWord {w : List Char} (hw : w.all isIdentChar) :
    (pluralWord w).getLast? ≠ some 'd' := by
  by_cases hne : w = []
  · simp [hne, pluralWord_nil]
  rcases pluralWord_shape hw hne with ⟨e, he, h⟩ | ⟨h, hs⟩ | ⟨pre, lit, hpre, hlit, h⟩
  · rw [h]
    exact (irregularPlurals_shape e he).2
  · rw [h, hs]
    decide
  · rw [h, List.getLast?_append, (pluralEndings_shape lit hlit).2]
    simp

theorem dropWhile_ne_of_mem {c : Char} : ∀ {l : List Char}, c ∈ l →
    ∃ rest, l.dropWhile (· ≠ c) = c :: rest
  | x :: xs, h => by
    by_cases hx : x = c
    · subst hx
      exact ⟨xs, by simp⟩
    · rw [List.dropWhile_cons_of_pos (by simpa using hx)]
      exact dropWhile_ne_of_mem ((List.mem_cons.1 h).resolve_left (Ne.symm hx))

/-- A name with an underscore is made plural after its last underscore. -/
theorem plural_of_underscore {s : String} (h : '_' ∈ s.toList) :
    ∃ head tail, head ++ tail = s.toList ∧ head.getLast? = some '_' ∧
      (plural s).toList = head ++ pluralWord tail := by
  obtain ⟨rest, hrest⟩ := dropWhile_ne_of_mem (List.mem_reverse.2 h)
  refine ⟨(s.toList.reverse.dropWhile (· ≠ '_')).reverse,
    (s.toList.reverse.takeWhile (· ≠ '_')).reverse, ?_, ?_, ?_⟩
  · rw [← List.reverse_append, List.takeWhile_append_dropWhile, List.reverse_reverse]
  · rw [hrest]
    simp
  · simp [plural, h]

theorem plural_of_no_underscore {s : String} (h : '_' ∉ s.toList) :
    (plural s).toList = pluralWord s.toList := by
  simp [plural, h]

/-- The plural of an identifier is an identifier. -/
theorem isSnakeIdent_plural {s : String} (hs : isSnakeIdent s.toList) :
    isSnakeIdent (plural s).toList := by
  by_cases h : '_' ∈ s.toList
  · obtain ⟨head, tail, hsplit, hlast, hp⟩ := plural_of_underscore h
    rw [hp]
    have hne : head ≠ [] := by rintro rfl; cases hlast
    have hall := all_isIdentChar_of_isSnakeIdent hs
    rw [← hsplit, List.all_append, Bool.and_eq_true] at hall
    rw [← hsplit] at hs
    exact isSnakeIdent_append (isSnakeIdent_of_prefix_ne_nil (List.prefix_append head tail) hne hs)
      (all_pluralWord hall.2)
  · rw [plural_of_no_underscore h]
    exact isSnakeIdent_pluralWord hs

/-- The plural of a name of identifier characters does not end in `d`, so it is never a key
name ending in `_id`. -/
theorem getLast?_plural {s : String} (hs : s.toList.all isIdentChar) :
    (plural s).toList.getLast? ≠ some 'd' := by
  by_cases h : '_' ∈ s.toList
  · obtain ⟨head, tail, hsplit, hlast, hp⟩ := plural_of_underscore h
    rw [hp]
    rw [← hsplit, List.all_append, Bool.and_eq_true] at hs
    have hw := getLast?_pluralWord hs.2
    rw [List.getLast?_append]
    -- the last letter is that of the plural word, or the underscore when that is empty
    cases hl : (pluralWord tail).getLast? with
    | none => simp [hlast]
    | some x => simpa [hl] using hw
  · rw [plural_of_no_underscore h]
    exact getLast?_pluralWord hs

/-! ### Keys -/

theorem isSnakeIdent_append_id {v : String} (h : isSnakeIdent v.toList) :
    isSnakeIdent (v ++ "_id").toList := by
  rw [String.toList_append]
  exact isSnakeIdent_append h (by decide)

theorem isSnakeIdent_parent_prefix {v : String} (h : isSnakeIdent v.toList) :
    isSnakeIdent ("parent_" ++ v).toList := by
  rw [String.toList_append]
  exact isSnakeIdent_append (by decide) (all_isIdentChar_of_isSnakeIdent h)

theorem append_id_inj {a b : String} (h : a ++ "_id" = b ++ "_id") : a = b := by
  have := congrArg String.toList h
  simp only [String.toList_append] at this
  exact String.toList_inj.1 (List.append_cancel_right this)

theorem ne_append_id (v : String) : v ≠ v ++ "_id" := by
  intro h
  have := congrArg String.length h
  simp at this

/-- A plural is never a key name. -/
theorem plural_ne_append_id {s : String} (hs : s.toList.all isIdentChar) (t : String) :
    plural s ≠ t ++ "_id" := by
  intro h
  have := getLast?_plural hs
  rw [h, String.toList_append] at this
  simp at this

end CrudScaffold.Naming

namespace CrudScaffold

open CrudScaffold.Naming CrudScaffold.Text

/-- The class of a model is named with an ASCII capital first: the last segment of its
qualified name, from which its short name is taken, starts with one. -/
def ModelInfo.CapitalName (i : ModelInfo) : Prop :=
  ∃ c rest, (splitWhen isPathBreak i.qualifiedName.toList).getLast? = some (c :: rest) ∧ c.isUpper

/-- The short name of a class named with an ASCII character first is the class name with
that character in ASCII lower case. -/
theorem ModelInfo.shortName_of_ascii {i : ModelInfo} {c : Char} {rest : List Char}
    (hseg : (splitWhen isPathBreak i.qualifiedName.toList).getLast? = some (c :: rest))
    (hc : c.toNat < 128) : i.shortName = String.ofList (c.toLower :: rest) := by
  rw [ModelInfo.shortName, Naming.shortName, hseg, Option.getD_some, lcfirst,
    String.toList_ofList]
  show String.ofList (lowerChar c ++ rest) = _
  rw [lowerChar_ascii hc]
  rfl

/-- The variable of a model whose class name starts with a capital is an identifier. -/
theorem ModelInfo.snake_shortName {i : ModelInfo} (h : i.CapitalName) :
    isSnakeIdent (snake i.shortName).toList := by
  obtain ⟨c, rest, hseg, hc⟩ := h
  have hlt : c.toNat < 128 := by
    have := (isUpper_iff c).1 hc
    omega
  rw [ModelInfo.shortName_of_ascii hseg hlt]
  exact isSnakeIdent_snake (isLower_toLower hc) rest

/-- The variable of a model, read off the list form of its class name. -/
theorem ModelInfo.snake_shortName_eq {i : ModelInfo} (c : Char) (rest : List Char) {t : String}
    (hseg : (splitWhen isPathBreak i.qualifiedName.toList).getLast? = some (c :: rest))
    (hc : c.toNat < 128)
    (h : (List.intercalate ['_'] (snakePieces (c.toLower :: rest))).map Char.toLower = t.toList) :
    snake i.shortName = t := by
  rw [ModelInfo.shortName_of_ascii hseg hc]
  apply snake_of_toList
  rwa [String.toList_ofList]

end CrudScaffold

namespace CrudScaffold.Method

open CrudScaffold.Naming

namespace ParentNames

variable (modelVar : String) (p : ModelInfo)

theorem var_of : (ParentNames.of modelVar p).var =
    if snake p.shortName = modelVar then "parent_" ++ snake p.shortName else snake p.shortName := by
  simp [ParentNames.of]

/-- A parent's variable never repeats the model's: a parent of the same snake-case name is
renamed. -/
theorem var_ne : (ParentNames.of modelVar p).var ≠ modelVar := by
  rw [var_of]
  split
  · rename_i h
    rw [← h]
    intro he
    have := congrArg String.length he
    simp at this
  · assumption

variable {p}

theorem isSnakeIdent_var (h : p.CapitalName) :
    isSnakeIdent (ParentNames.of modelVar p).var.toList := by
  rw [var_of]
  split
  · exact isSnakeIdent_parent_prefix (ModelInfo.snake_shortName h)
  · exact ModelInfo.snake_shortName h

theorem key_of (h : p.CapitalName) :
    (ParentNames.of modelVar p).key = some ((ParentNames.of modelVar p).var ++ "_id") := by
  have hv : (ParentNames.of modelVar p).var ≠ "" := by
    intro he
    have := isSnakeIdent_var modelVar h
    rw [he] at this
    cases this
  rw [var_of] at hv ⊢
  simp only [ParentNames.of, beq_iff_eq]
  rw [if_neg (by simpa [String.isEmpty_iff] using hv)]

end ParentNames

theorem ResourceNames.of_eq (model : ModelInfo) (parent : Option ModelInfo) :
    ResourceNames.of model parent =
      ⟨model.className, snake model.shortName, plural (snake model.shortName),
        snake model.shortName ++ "_id", title (snake model.shortName), model.table,
        parent.map (ParentNames.of (snake model.shortName))⟩ := rfl

/-- What the identifiers of a generated method satisfy: each is a snake-case identifier, the
record's variable differs from its key and from its parent's variable, the keys differ, and the
collection's variable is no key. -/
structure ResourceNames.WellFormed (n : ResourceNames) : Prop where
  modelVar : isSnakeIdent n.modelVar.toList
  collectionVar : isSnakeIdent n.collectionVar.toList
  key : isSnakeIdent n.key.toList
  modelVar_ne_key : n.modelVar ≠ n.key
  collectionVar_ne_key : n.collectionVar ≠ n.key
  parent : ∀ pn ∈ n.parent, ∃ pk, pn.key = some pk ∧ isSnakeIdent pn.var.toList ∧
    isSnakeIdent pk.toList ∧ pn.var ≠ n.modelVar ∧ pn.var ≠ pk ∧ n.key ≠ pk ∧ n.collectionVar ≠ pk

/-- For a model and a parent whose class names start with an ASCII capital, the identifiers of
a generated method are well formed. -/
theorem resourceNames_wellFormed (model : ModelInfo) (parent : Option ModelInfo)
    (hm : model.CapitalName) (hp : ∀ p ∈ parent, p.CapitalName) :
    (ResourceNames.of model parent).WellFormed := by
  rw [ResourceNames.of_eq]
  have hv := ModelInfo.snake_shortName hm
  -- from here on only the fact that the model's variable is an identifier matters
  generalize snake model.shortName = v at hv ⊢
  have hall := all_isIdentChar_of_isSnakeIdent hv
  refine ⟨hv, isSnakeIdent_plural hv, isSnakeIdent_append_id hv, ne_append_id _,
    plural_ne_append_id hall _, ?_⟩
  intro pn hpn
  obtain ⟨p, hpp, rfl⟩ := Option.map_eq_some_iff.1 (Option.mem_def.1 hpn)
  have hcap := hp p hpp
  have hvar := ParentNames.isSnakeIdent_var v hcap
  refine ⟨_, ParentNames.key_of v hcap, hvar, isSnakeIdent_append_id hvar,
    ParentNames.var_ne v p, ne_append_id _, ?_, plural_ne_append_id hall _⟩
  -- the keys differ because the variables do
  intro hk
  exact ParentNames.var_ne _ p (append_id_inj hk).symm

/-- Comments kept under posts. -/
def commentInfo : ModelInfo := ⟨"comments", "app.models.Comment", "Comment"⟩

def postInfo : ModelInfo := ⟨"posts", "app.models.Post", "Post"⟩

theorem resourceNames_comment_post :
    commentInfo.CapitalName ∧ (∀ p ∈ some postInfo, p.CapitalName) ∧
      (ResourceNames.of commentInfo (some postInfo)).WellFormed :=
  have hc : commentInfo.CapitalName := ⟨'C', "omment".toList, by decide, by decide⟩
  have hp : ∀ p ∈ some postInfo, p.CapitalName := by
    intro p hp
    cases hp
    exact ⟨'P', "ost".toList, by decide, by decide⟩
  ⟨hc, hp, resourceNames_wellFormed _ _ hc hp⟩

/-- A class `Class` under a parent `Classes`, a class `PostId`, and a class `Db`. -/
def classInfo : ModelInfo := ⟨"classes", "app.models.Class", "Class"⟩

def classesInfo : ModelInfo := ⟨"class_groups", "app.models.Classes", "Classes"⟩

def postIdInfo : ModelInfo := ⟨"post_ids", "app.models.PostId", "PostId"⟩

def dbInfo : ModelInfo := ⟨"dbs", "app.models.Db", "Db"⟩

/-- The names can clash with words of the language, with the parent's names and with the
templates' names: `Class` gives `class`, `Post` and `PostId` share `post_id` as parent and
model either way, and `Db` gives the session's `db`. -/
theorem resourceNames_clash :
    (ResourceNames.of classInfo (some classesInfo)).modelVar = "class" ∧
    (ResourceNames.of classInfo (some classesInfo)).collectionVar = "classes" ∧
    ((ResourceNames.of classInfo (some classesInfo)).parent.map (·.var)) = some "classes" ∧
    (ResourceNames.of postInfo (some postIdInfo)).key = "post_id" ∧
    ((ResourceNames.of postInfo (some postIdInfo)).parent.map (·.var)) = some "post_id" ∧
    (ResourceNames.of postIdInfo (some postInfo)).modelVar = "post_id" ∧
    ((ResourceNames.of postIdInfo (some postInfo)).parent.bind (·.key)) = some "post_id" ∧
    (ResourceNames.of dbInfo none).modelVar = "db" := by
  have hclass : snake classInfo.shortName = "class" :=
    ModelInfo.snake_shortName_eq 'C' "lass".toList (by decide) (by decide) (by decide)
  have hclasses : snake classesInfo.shortName = "classes" :=
    ModelInfo.snake_shortName_eq 'C' "lasses".toList (by decide) (by decide) (by decide)
  have hpost : snake postInfo.shortName = "post" :=
    ModelInfo.snake_shortName_eq 'P' "ost".toList (by decide) (by decide) (by decide)
  have hpostId : snake postIdInfo.shortName = "post_id" :=
    ModelInfo.snake_shortName_eq 'P' "ostId".toList (by decide) (by decide) (by decide)
  have hdb : snake dbInfo.shortName = "db" :=
    ModelInfo.snake_shortName_eq 'D' "b".toList (by decide) (by decide) (by decide)
  have hcap : postInfo.CapitalName := ⟨'P', "ost".toList, by decide, by decide⟩
  refine ⟨?_, ?_, ?_, ?_, ?_, ?_, ?_, ?_⟩
  · simp only [ResourceNames.of_eq, hclass]
  · simp only [ResourceNames.of_eq, hclass]
    rfl
  · simp [ResourceNames.of_eq, ParentNames.var_of, hclass, hclasses]
  · simp [ResourceNames.of_eq, hpost]
  · simp [ResourceNames.of_eq, ParentNames.var_of, hpost, hpostId]
  · simp only [ResourceNames.of_eq, hpostId]
  · simp [ResourceNames.of_eq, ParentNames.key_of _ hcap, ParentNames.var_of, hpost, hpostId]
  · simp only [ResourceNames.of_eq, hdb]

end CrudScaffold.Method
