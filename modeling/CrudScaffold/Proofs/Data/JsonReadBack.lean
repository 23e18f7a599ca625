import CrudScaffold.Data.Json.Read
import CrudScaffold.Data.Json.Write
import Mathlib.Data.List.Chain

/-!
# JSON text is read back

Writing a value as JSON text (`render`) and reading the text back (`parse`) gives the value
again, for the values that JSON text carries unchanged (`Plain`): null, booleans, integers of
at most `maxNumeralDigits` digits, texts, and arrays and objects of such values whose keys are
distinct texts, nested fewer than `maxNesting` deep (`parse_render`).

A character of a text is written in one of four ways (`Escaped`, `escaped_escapeChar`): by a
one-letter escape, by the `\u` escape of the code point it stands for, by the two `\u` escapes
of a surrogate pair above U+FFFF, or as itself. Each is read back as the character it came
from (`readStringBody_escapeChar`), but for one case: a carried high surrogate right before a
carried low one is written as the escapes of a surrogate pair, which read back as the single
character the pair encodes. Texts whose lone surrogates stand apart (`PairsApart`) are read
back as they were (`readStringBody_escaped`).

An integer is written without leading zeros and read by the steps of `readNumber`
(`readNumber_toString`). Arrays and objects are read one member after another, and the reader
spends one unit of fuel for each step it descends: twice the length of the text is always
enough (`readValue_render`). Every character written is printable ASCII (`render_printable`),
so line breaks are never touched when a file is read.
-/

namespace CrudScaffold.Text

theorem toNat_valid (c : Char) : c.toNat < 0xD800 ∨ (0xDFFF < c.toNat ∧ c.toNat < 0x110000) :=
  c.valid

theorem carriedSurrogate?_eq_some {c : Char} {u : Nat} (h : carriedSurrogate? c = some u) :
    carrierBase ≤ c.toNat ∧ c.toNat < carrierBase + 0x800 ∧ u = c.toNat - carrierBase + 0xD800 := by
  unfold carriedSurrogate? at h
  split at h
  · simp_all
  · cases h

theorem codeOf_of_carried {c : Char} {u : Nat} (h : carriedSurrogate? c = some u) :
    codeOf c = u := by
  simp [codeOf, h]

theorem codeOf_of_not_carried {c : Char} (h : carriedSurrogate? c = none) :
    codeOf c = c.toNat := by
  simp [codeOf, h]

/-- A character whose code point lies below U+10000 is the character of that code point. -/
theorem charOfCode_codeOf {c : Char} (h : codeOf c < 0x10000) : charOfCode (codeOf c) = c := by
  cases hc : carriedSurrogate? c with
  | none =>
    rw [codeOf_of_not_carried hc] at h ⊢
    -- a character that carries nothing is no surrogate itself
    have hns : isSurrogate c.toNat = false := by
      have := toNat_valid c
      simp only [isSurrogate, Bool.and_eq_false_iff, decide_eq_false_iff_not]
      omega
    rw [charOfCode, if_neg (by simp [hns]), Char.ofNat_toNat]
  | some u =>
    obtain ⟨hlo, hhi, rfl⟩ := carriedSurrogate?_eq_some hc
    rw [codeOf_of_carried hc]
    have hs : isSurrogate (c.toNat - carrierBase + 0xD800) = true := by
      unfold isSurrogate
      simp only [Bool.and_eq_true, decide_eq_true_eq]
      omega
    have hback : carrierBase + (c.toNat - carrierBase + 0xD800 - 0xD800) = c.toNat := by
      omega
    rw [charOfCode, if_pos hs, hback, Char.ofNat_toNat]

/-- Whether a character carries a high surrogate, U+D800 to U+DBFF. -/
def carriesHigh (c : Char) : Bool := 0xD800 ≤ codeOf c && codeOf c < 0xDC00

/-- Whether a character carries a low surrogate, U+DC00 to U+DFFF. -/
def carriesLow (c : Char) : Bool := 0xDC00 ≤ codeOf c && codeOf c < 0xE000

/-- Whether two characters are the halves of a surrogate pair that were carried apart. -/
def splitsPair (c c' : Char) : Bool := carriesHigh c && carriesLow c'

/-- A text in which no carried high surrogate stands right before a carried low one. -/
def PairsApart (cs : List Char) : Prop := cs.IsChain fun c c' => splitsPair c c' = false

instance (cs : List Char) : Decidable (PairsApart cs) :=
  inferInstanceAs (Decidable (cs.IsChain fun c c' => splitsPair c c' = false))

end CrudScaffold.Text

namespace CrudScaffold.Data.Json

open CrudScaffold.Text

/-! ## Hexadecimal digits -/

theorem hexValue?_digitChar : ∀ k < 16, hexValue? (Nat.digitChar k) = some k := by decide

theorem toList_hex4 (n : Nat) : (hex4 n).toList = [Nat.digitChar (n / 4096 % 16),
    Nat.digitChar (n / 256 % 16), Nat.digitChar (n / 16 % 16), Nat.digitChar (n % 16)] := by
  simp [hex4]

theorem hex4?_digits {n : Nat} (hn : n < 65536) :
    hex4? (Nat.digitChar (n / 4096 % 16)) (Nat.digitChar (n / 256 % 16))
      (Nat.digitChar (n / 16 % 16)) (Nat.digitChar (n % 16)) = some n := by
  have h16 : ∀ m, m % 16 < 16 := fun m => Nat.mod_lt _ (by decide)
  simp only [hex4?, hexValue?_digitChar _ (h16 _)]
  simp
  omega

/-! ## How a character is written -/

/-- The `\u` escape of a code point below U+10000. -/
def unitEscape (u : Nat) : List Char := '\\' :: 'u' :: (hex4 u).toList

theorem toList_backslash_u : "\\u".toList = ['\\', 'u'] := by simp

theorem toList_unit (u : Nat) : ("\\u" ++ hex4 u).toList = unitEscape u := by
  rw [String.toList_append, toList_backslash_u]
  rfl

/-- The ways `escapeChar` writes a character. -/
inductive Escaped (c : Char) : List Char → Prop
  | short {e : Char} (he : escapeOf? e = some c) : Escaped c ['\\', e]
  | unit (hc : codeOf c < 0x10000) : Escaped c (unitEscape (codeOf c))
  | pair (hc : 0x10000 ≤ c.toNat) :
      Escaped c (unitEscape (0xD800 + (c.toNat - 0x10000) / 0x400) ++
        unitEscape (0xDC00 + (c.toNat - 0x10000) % 0x400))
  | plain (hq : c ≠ '"') (hb : c ≠ '\\') (hp : 0x20 ≤ c.toNat ∧ c.toNat ≤ 0x7E) : Escaped c [c]

/-- One test of the chain that picks an escape. -/
theorem escaped_ite {c x : Char} {s t : String} (hs : (c == x) = true → Escaped c s.toList)
    (ht : (c == x) = false → Escaped c t.toList) : Escaped c (if c == x then s else t).toList := by
  by_cases h : (c == x) = true
  · rw [if_pos h]
    exact hs h
  · rw [if_neg h]
    exact ht (Bool.eq_false_iff.2 h)

theorem escaped_escapeChar (c : Char) : Escaped c (escapeChar c).toList := by
  unfold escapeChar
  -- the seven one-letter escapes
  iterate 7 refine escaped_ite (fun h => (eq_of_beq h) ▸ .short rfl) fun _ => ?_
  split
  next u hu =>
    have hcode : codeOf c = u := codeOf_of_carried hu
    have := carriedSurrogate?_eq_some hu
    have hlt : codeOf c < 0x10000 := by omega
    rw [← hcode, toList_unit]
    exact Escaped.unit hlt
  next hnone =>
    have hcode : codeOf c = c.toNat := by
      cases h : carriedSurrogate? c
      · exact codeOf_of_not_carried h
      · exact absurd h (hnone _)
    split
    · split
      next hlt =>
        rw [← hcode] at hlt ⊢
        rw [toList_unit]
        exact Escaped.unit hlt
      next hge =>
        show Escaped c ("\\u" ++ hex4 (0xD800 + (c.toNat - 0x10000) / 0x400) ++ "\\u" ++
          hex4 (0xDC00 + (c.toNat - 0x10000) % 0x400)).toList
        rw [String.append_assoc, String.toList_append, toList_unit, toList_unit]
        exact Escaped.pair (by omega)
    next hp =>
      have hq : c ≠ '"' := by rintro rfl; simp_all
      have hb : c ≠ '\\' := by rintro rfl; simp_all
      simpa using Escaped.plain hq hb (by simp at hp; omega)

/-! ## How a character is read back -/

/-- What follows the escape of a high surrogate is no escape of a low one, so the two are not
read as a pair. -/
def NoLowAfter (rest : List Char) : Prop :=
  ∀ e f g h r, rest = '\\' :: 'u' :: e :: f :: g :: h :: r →
    ∃ lo, hex4? e f g h = some lo ∧ ¬ (0xDC00 ≤ lo ∧ lo < 0xE000)

theorem readStringBody_short {e c : Char} (he : escapeOf? e = some c) (rest acc : List Char) :
    readStringBody ('\\' :: e :: rest) acc = readStringBody rest (c :: acc) := by
  have hu : e ≠ 'u' := by
    rintro rfl
    cases he
  rw [readStringBody.eq_4 _ _ _ (fun _ _ _ _ _ h _ => hu h), he]

theorem readStringBody_unit {u : Nat} {rest : List Char} (hu : u < 0x10000)
    (hnot : 0xD800 ≤ u ∧ u < 0xDC00 → NoLowAfter rest) (acc : List Char) :
    readStringBody (unitEscape u ++ rest) acc = readStringBody rest (charOf u :: acc) := by
  rw [unitEscape, toList_hex4]
  simp only [List.cons_append, List.nil_append]
  rw [readStringBody.eq_3, hex4?_digits hu]
  dsimp only
  by_cases hhi : 0xD800 ≤ u ∧ u < 0xDC00
  · -- a high surrogate looks at the next escape, which is no low one
    rw [if_pos hhi]
    split
    next e f g h r' =>
      obtain ⟨lo, hlo, hnlo⟩ := hnot hhi e f g h r' rfl
      rw [hlo]
      dsimp only
      rw [if_neg hnlo]
    next => rfl
  · rw [if_neg hhi]

theorem readStringBody_pair {hi lo : Nat} (hhi : 0xD800 ≤ hi ∧ hi < 0xDC00)
    (hlo : 0xDC00 ≤ lo ∧ lo < 0xE000) (rest acc : List Char) :
    readStringBody (unitEscape hi ++ unitEscape lo ++ rest) acc =
      readStringBody rest
        (Char.ofNat (0x10000 + (hi - 0xD800) * 0x400 + (lo - 0xDC00)) :: acc) := by
  rw [unitEscape, unitEscape, toList_hex4, toList_hex4]
  simp only [List.cons_append, List.nil_append]
  rw [readStringBody.eq_3, hex4?_digits (by omega)]
  dsimp only
  rw [if_pos hhi]
  split
  next e f g h r' heq =>
    simp only [List.cons.injEq] at heq
    obtain ⟨-, -, rfl, rfl, rfl, rfl, rfl⟩ := heq
    rw [hex4?_digits (by omega)]
    dsimp only
    rw [if_pos hlo]
  next hne => exact (hne _ _ _ _ _ rfl).elim

theorem readStringBody_plain {c : Char} (hq : c ≠ '"') (hb : c ≠ '\\') (hp : 0x20 ≤ c.toNat)
    (rest acc : List Char) : readStringBody (c :: rest) acc = readStringBody rest (c :: acc) := by
  rw [readStringBody.eq_5 _ _ _ hq (fun _ _ _ _ _ h _ => hb h) (fun _ _ h _ => hb h),
    if_neg (by omega)]

/-- A written character is read back as itself, unless it carries a high surrogate and the
escape of a low one follows. -/
theorem readStringBody_escapeChar (c : Char) {rest : List Char}
    (hrest : carriesHigh c = true → NoLowAfter rest) (acc : List Char) :
    readStringBody ((escapeChar c).toList ++ rest) acc = readStringBody rest (c :: acc) := by
  have hform := escaped_escapeChar c
  generalize (escapeChar c).toList = w at hform
  cases hform with
  | short he => exact readStringBody_short he rest acc
  | unit hc =>
    have hnot : 0xD800 ≤ codeOf c ∧ codeOf c < 0xDC00 → NoLowAfter rest := fun hhi =>
      hrest (by simp [carriesHigh, hhi.1, hhi.2])
    rw [readStringBody_unit hc hnot, charOf, charOfCode_codeOf hc]
  | pair hc =>
    have hv := toNat_valid c
    rw [readStringBody_pair (by omega) (by omega)]
    have hcode : 0x10000 + (0xD800 + (c.toNat - 0x10000) / 0x400 - 0xD800) * 0x400 +
        (0xDC00 + (c.toNat - 0x10000) % 0x400 - 0xDC00) = c.toNat := by omega
    rw [hcode, Char.ofNat_toNat]
  | plain hq hb hp => exact readStringBody_plain hq hb hp.1 rest acc

theorem noLowAfter_quote (rest : List Char) : NoLowAfter ('"' :: rest) := by
  intro e f g h r hr
  cases hr

/-- The escape of a character that carries no low surrogate starts no low escape. -/
theorem noLowAfter_escapeChar {c : Char} (hc : carriesLow c = false) (rest : List Char) :
    NoLowAfter ((escapeChar c).toList ++ rest) := by
  have hform := escaped_escapeChar c
  generalize (escapeChar c).toList = w at hform
  intro e f g h r hr
  cases hform with
  | short he =>
    simp only [List.cons_append, List.nil_append, List.cons.injEq] at hr
    obtain ⟨-, rfl, -⟩ := hr
    cases he
  | unit hu =>
    simp only [unitEscape, toList_hex4, List.cons_append, List.nil_append, List.cons.injEq] at hr
    obtain ⟨-, -, rfl, rfl, rfl, rfl, -⟩ := hr
    refine ⟨codeOf c, hex4?_digits hu, fun hlow => ?_⟩
    simp [carriesLow, hlow.1, hlow.2] at hc
  | pair hp =>
    have hv := toNat_valid c
    simp only [unitEscape, toList_hex4, List.cons_append, List.nil_append, List.cons.injEq] at hr
    obtain ⟨-, -, rfl, rfl, rfl, rfl, -⟩ := hr
    exact ⟨_, hex4?_digits (by omega), by omega⟩
  | plain hq hb =>
    simp only [List.cons_append, List.nil_append, List.cons.injEq] at hr
    exact absurd hr.1 hb

/-- The escapes of a text whose lone surrogates stand apart read back as the text. -/
theorem readStringBody_escaped {cs : List Char} (hcs : PairsApart cs) (rest acc : List Char) :
    readStringBody ((cs.flatMap fun c => (escapeChar c).toList) ++ '"' :: rest) acc =
      some (String.ofList (acc.reverse ++ cs), rest) := by
  induction cs generalizing acc with
  | nil => simp [readStringBody.eq_2]
  | cons c cs ih =>
    -- what follows `c` is the escape of the next character, or the closing quote
    have hnext : carriesHigh c = true →
        NoLowAfter ((cs.flatMap fun c => (escapeChar c).toList) ++ '"' :: rest) := by
      intro hhigh
      cases cs with
      | nil => exact noLowAfter_quote rest
      | cons c' cs =>
        have hsplit : splitsPair c c' = false := (List.isChain_cons_cons.1 hcs).1
        have hlow : carriesLow c' = false := by simpa [splitsPair, hhigh] using hsplit
        rw [List.flatMap_cons, List.append_assoc]
        exact noLowAfter_escapeChar hlow _
    rw [List.flatMap_cons, List.append_assoc, readStringBody_escapeChar c hnext,
      ih hcs.tail (c :: acc)]
    simp

theorem readStringBody_text {s : String} (hs : PairsApart s.toList) (rest : List Char) :
    readStringBody ((s.toList.flatMap fun c => (escapeChar c).toList) ++ '"' :: rest) [] =
      some (s, rest) := by
  simpa using readStringBody_escaped hs rest []

theorem toList_quote (s : String) :
    (quote s).toList = '"' :: (s.toList.flatMap fun c => (escapeChar c).toList) ++ ['"'] := by
  simp [quote, String.toList_join, List.flatMap_map]

/-! ## Integers -/

/-- Text after a number that cannot continue it. -/
def NumberEnd : List Char → Prop
  | [] => True
  | c :: _ => c.isDigit = false ∧ c ≠ '.' ∧ c ≠ 'e' ∧ c ≠ 'E'

/-- Digits with no leading zero, but for a lone zero. -/
def Numeral (ds : List Char) : Prop :=
  (∀ c ∈ ds, c.isDigit = true) ∧ (ds = ['0'] ∨ ∃ c t, ds = c :: t ∧ c ≠ '0')

theorem digits_append_end {ds rest : List Char} (hds : ∀ c ∈ ds, c.isDigit = true)
    (hrest : NumberEnd rest) :
    (ds ++ rest).takeWhile Char.isDigit = ds ∧ (ds ++ rest).dropWhile Char.isDigit = rest := by
  induction ds with
  | nil =>
    cases rest with
    | nil => simp
    | cons c r => simp [hrest.1]
  | cons d ds ih =>
    have := ih (fun c hc => hds c (by simp [hc]))
    simp [hds d (by simp), this]

theorem readWhole_numeral {ds rest : List Char} (hds : Numeral ds) (hrest : NumberEnd rest) :
    readWhole (ds ++ rest) = some (ds, rest) := by
  obtain ⟨hall, rfl | ⟨c, t, rfl, hc⟩⟩ := hds
  · rfl
  · have ht := digits_append_end (fun d hd => hall d (List.mem_cons_of_mem c hd)) hrest
    rw [List.cons_append, readWhole.eq_2 _ _ hc, if_pos (hall c List.mem_cons_self), ht.1, ht.2]

theorem readFraction_of_end {rest : List Char} (h : NumberEnd rest) :
    readFraction rest = ([], rest) := by
  unfold readFraction
  split
  next d r => exact absurd rfl h.2.1
  next => rfl

theorem readExponent_of_end {rest : List Char} (h : NumberEnd rest) :
    readExponent rest = (none, rest) := by
  unfold readExponent
  split
  next e r =>
    have he : (e == 'e' || e == 'E') = false := by simp [h.2.2.1, h.2.2.2]
    rw [if_neg (by simp [he])]
  next => rfl

/-- A numeral with an optional minus, and nothing after it that continues it, is read as the
integer it spells. -/
theorem readNumber_numeral (neg : Bool) {ds rest : List Char} (hds : Numeral ds)
    (hlen : ds.length ≤ maxNumeralDigits) (hrest : NumberEnd rest) :
    readNumber ((if neg then ['-'] else []) ++ ds ++ rest) =
      .ok (.int (if neg then -(digitsValue ds : Int) else digitsValue ds), rest) := by
  have hminus : readMinus ((if neg then ['-'] else []) ++ ds ++ rest) = (neg, ds ++ rest) := by
    cases neg
    · obtain ⟨hall, rfl | ⟨c, t, rfl, -⟩⟩ := hds
      · rfl
      · have hc : c ≠ '-' := by
          intro h
          have := hall c List.mem_cons_self
          rw [h] at this
          cases this
        simp only [Bool.false_eq_true, if_false, List.nil_append, List.cons_append]
        rw [readMinus.eq_2 _ (fun r h => hc (List.cons.inj h).1)]
    · rfl
  rw [readNumber, hminus]
  dsimp only
  rw [readWhole_numeral hds hrest]
  dsimp only
  rw [readFraction_of_end hrest]
  dsimp only
  rw [readExponent_of_end hrest]
  simp [Nat.not_lt.2 hlen]

theorem digitsValue_eq (ds : List Char) : digitsValue ds = Nat.ofDigitChars 10 ds 0 := rfl

theorem toDigits_head {m : Nat} (hm : 0 < m) : ∃ c t, Nat.toDigits 10 m = c :: t ∧ c ≠ '0' := by
  induction m using Nat.strong_induction_on with
  | _ m ih =>
    by_cases hlt : m < 10
    · refine ⟨Nat.digitChar m, [], Nat.toDigits_of_lt_base hlt, ?_⟩
      have : ∀ k < 10, 0 < k → Nat.digitChar k ≠ '0' := by decide
      exact this m hlt hm
    · -- the leading digit is that of `m / 10`
      obtain ⟨c, t, heq, hc⟩ := ih (m / 10) (by omega) (by omega)
      refine ⟨c, t ++ [Nat.digitChar (m % 10)], ?_, hc⟩
      rw [Nat.toDigits_of_base_le (by decide) (by omega), heq, List.cons_append]

theorem numeral_toDigits (m : Nat) : Numeral (Nat.toDigits 10 m) := by
  refine ⟨fun c hc => Nat.isDigit_of_mem_toDigits (by decide) (by decide) hc, ?_⟩
  rcases Nat.eq_zero_or_pos m with rfl | hm
  · exact Or.inl (Nat.toDigits_zero 10)
  · exact Or.inr (toDigits_head hm)

theorem toList_toString_int (n : Int) :
    (toString n).toList = (if n < 0 then ['-'] else []) ++ Nat.toDigits 10 n.natAbs := by
  rw [Int.toString_eq_repr, Int.repr_eq_if]
  by_cases hn : 0 ≤ n
  · have : n.toNat = n.natAbs := by omega
    simp [hn, this, Int.not_lt.2 hn]
  · have : (-n).toNat = n.natAbs := by omega
    simp [hn, this, Int.lt_of_not_ge hn]

/-- An integer of at most `maxNumeralDigits` digits is read back from its text. -/
theorem readNumber_toString {n : Int} (hlen : (Nat.toDigits 10 n.natAbs).length ≤ maxNumeralDigits)
    {rest : List Char} (hrest : NumberEnd rest) :
    readNumber ((toString n).toList ++ rest) = .ok (.int n, rest) := by
  have h := readNumber_numeral (decide (n < 0)) (numeral_toDigits n.natAbs) hlen hrest
  rw [digitsValue_eq, Nat.ofDigitChars_ten_toDigits] at h
  rw [toList_toString_int]
  by_cases hneg : n < 0
  · simp only [hneg, decide_true, if_true] at h ⊢
    rw [h]
    congr
    omega
  · simp only [hneg, decide_false, Bool.false_eq_true, if_false] at h ⊢
    rw [h]
    congr
    omega

/-! ## Values -/

/-- The values that JSON text carries unchanged, read inside `d` open arrays and objects:
null, booleans, integers of at most `maxNumeralDigits` digits, texts whose lone surrogates
stand apart, and arrays and objects of such values, opened inside fewer than `maxNesting`
others, the keys of an object being distinct texts. -/
inductive Plain : Nat → Value → Prop
  | null {d : Nat} : Plain d .null
  | bool {d : Nat} (b : Bool) : Plain d (.bool b)
  | int {d : Nat} {n : Int} (hn : (Nat.toDigits 10 n.natAbs).length ≤ maxNumeralDigits) :
      Plain d (.int n)
  | str {d : Nat} {s : String} (hs : PairsApart s.toList) : Plain d (.str s)
  | list {d : Nat} {xs : List Value} (hd : d < maxNesting) (hxs : ∀ x ∈ xs, Plain (d + 1) x) :
      Plain d (.list xs)
  | dict {d : Nat} {es : List (Value × Value)} (hd : d < maxNesting)
      (hkeys : ∀ e ∈ es, ∃ k, e.1 = .str k ∧ PairsApart k.toList)
      (hnd : (es.map Prod.fst).Nodup) (hvals : ∀ e ∈ es, Plain (d + 1) e.2) :
      Plain d (.dict es)

theorem skipSpace_of_gt {c : Char} (h : 0x20 < c.toNat) (cs : List Char) :
    skipSpace (c :: cs) = c :: cs := by
  rw [skipSpace.eq_1, if_neg]
  rintro hs
  simp only [Bool.or_eq_true, beq_iff_eq] at hs
  rcases hs with ((rfl | rfl) | rfl) | rfl <;> simp at h

theorem skipSpace_space (cs : List Char) : skipSpace (' ' :: cs) = skipSpace cs := by
  rw [skipSpace.eq_1, if_pos (by decide)]

theorem readValue_space (fuel d : Nat) (cs : List Char) :
    readValue fuel d (' ' :: cs) = readValue fuel d cs := by
  cases fuel with
  | zero => rw [readValue.eq_1, readValue.eq_1]
  | succ f => rw [readValue.eq_2, readValue.eq_2, skipSpace_space]

theorem readItems_space (fuel d : Nat) (cs : List Char) (acc : List Value) :
    readItems fuel d (' ' :: cs) acc = readItems fuel d cs acc := by
  cases fuel with
  | zero => rw [readItems.eq_1, readItems.eq_1]
  | succ f => rw [readItems.eq_2, readItems.eq_2, readValue_space]

/-- The text of a plain value starts with a character that is neither white space nor a
closing bracket. -/
theorem render_head {d : Nat} {v : Value} (hv : Plain d v) :
    ∃ c cs, (render v).toList = c :: cs ∧ 0x20 < c.toNat ∧ c ≠ ']' := by
  cases hv with
  | null => exact ⟨'n', ['u', 'l', 'l'], by simp [render], by decide, by decide⟩
  | bool b =>
    cases b
    · exact ⟨'f', ['a', 'l', 's', 'e'], by simp [render], by decide, by decide⟩
    · exact ⟨'t', ['r', 'u', 'e'], by simp [render], by decide, by decide⟩
  | @int _ n hn =>
    cases h : Nat.toDigits 10 n.natAbs with
    | nil => exact absurd h Nat.toDigits_ne_nil
    | cons c t =>
      rw [render, toList_toString_int, h]
      by_cases hneg : n < 0
      · exact ⟨'-', c :: t, by simp [hneg], by decide, by decide⟩
      · -- a non-negative integer starts with a digit
        have hd := Char.isDigit_iff_toNat.1 ((numeral_toDigits n.natAbs).1 c (by simp [h]))
        simp only [Char.reduceToNat] at hd
        refine ⟨c, t, by simp [hneg], by omega, ?_⟩
        rintro rfl
        simp at hd
  | str hs => exact ⟨'"', _, toList_quote _, by decide, by decide⟩
  | @list _ xs hd hxs =>
    exact ⟨'[', (renderItems xs).toList ++ [']'], by simp [render], by decide, by decide⟩
  | @dict _ es hd hkeys hnd hvals =>
    exact ⟨'\x7b', (renderEntries es).toList ++ ['\x7d'], by simp [render], by decide, by decide⟩

theorem numberEnd_cons {c : Char} (h : c.isDigit = false ∧ c ≠ '.' ∧ c ≠ 'e' ∧ c ≠ 'E')
    (r : List Char) : NumberEnd (c :: r) := h

/-- Text that starts as a number, with a digit or with a minus sign and a digit, is read as a
number. -/
theorem readValue_of_numberStart {cs : List Char} (hsp : skipSpace cs = cs)
    (hstart : ∀ c r, cs = c :: r →
      c.isDigit = true ∨ (c = '-' ∧ ∃ c' r', r = c' :: r' ∧ c'.isDigit = true))
    (f d : Nat) : readValue (f + 1) d cs = readNumber cs := by
  rw [readValue.eq_2, hsp]
  -- numbers are the catch-all case; the start rules out every other pattern
  split <;> first | rfl | (rcases hstart _ _ rfl with h | ⟨hm, c', r', ⟨⟩, hc'⟩ <;> simp_all)

/-- An integer of at most `maxNumeralDigits` digits is read back from its text. -/
theorem readValue_int {n : Int} (hn : (Nat.toDigits 10 n.natAbs).length ≤ maxNumeralDigits)
    (f d : Nat) {rest : List Char} (hrest : NumberEnd rest) :
    readValue (f + 1) d ((toString n).toList ++ rest) = .ok (.int n, rest) := by
  rw [← readNumber_toString hn hrest, toList_toString_int]
  cases h : Nat.toDigits 10 n.natAbs with
  | nil => exact absurd h Nat.toDigits_ne_nil
  | cons c t =>
    have hc := (numeral_toDigits n.natAbs).1 c (by simp [h])
    by_cases hneg : n < 0
    · simp only [hneg, if_true, List.cons_append, List.nil_append]
      refine readValue_of_numberStart (skipSpace_of_gt (by decide) _) ?_ f d
      rintro _ _ ⟨⟩
      exact .inr ⟨rfl, _, _, rfl, hc⟩
    · simp only [hneg, if_false, List.nil_append, List.cons_append]
      have h48 : 0x20 < c.toNat := by
        have := Char.isDigit_iff_toNat.1 hc
        simp only [Char.reduceToNat] at this
        omega
      refine readValue_of_numberStart (skipSpace_of_gt h48 _) ?_ f d
      rintro _ _ ⟨⟩
      exact .inl hc

theorem readValue_quote {s : String} (hs : PairsApart s.toList) (f d : Nat) (rest : List Char) :
    readValue (f + 1) d ((quote s).toList ++ rest) = .ok (.str s, rest) := by
  rw [toList_quote, readValue.eq_2]
  simp only [List.cons_append, List.append_assoc]
  rw [skipSpace_of_gt (by decide)]
  simp [readStringBody_text hs]

theorem setEntry_of_fresh {acc : List (Value × Value)} {k : Value} (v : Value)
    (h : ∀ e ∈ acc, Value.sameKey e.1 k = false) : Value.setEntry acc k v = acc ++ [(k, v)] := by
  induction acc with
  | nil => rfl
  | cons e acc ih =>
    obtain ⟨k', v'⟩ := e
    have hk : Value.sameKey k' k = false := h (k', v') List.mem_cons_self
    simp only [Value.setEntry, hk, Bool.false_eq_true, if_false, List.cons_append,
      ih (fun e he => h e (List.mem_cons_of_mem _ he))]

/-- A key that differs from every earlier one is added at the end. -/
theorem setEntry_of_pairwise {acc es : List (Value × Value)} {k v : Value}
    (h : ((acc ++ (k, v) :: es).map Prod.fst).Pairwise fun a b => Value.sameKey a b = false) :
    Value.setEntry acc k v = acc ++ [(k, v)] := by
  apply setEntry_of_fresh v
  intro a ha
  rw [List.map_append, List.pairwise_append] at h
  exact h.2.2 a.1 (List.mem_map_of_mem ha) _ List.mem_cons_self

/-- The members of an array, each of which is read back, are read back up to the closing
bracket. -/
theorem readItems_renderItems {d : Nat} {xs : List Value} (hne : xs ≠ [])
    (hread : ∀ x ∈ xs, ∀ fuel, 2 * (render x).length ≤ fuel → ∀ rest, NumberEnd rest →
      readValue fuel d ((render x).toList ++ rest) = .ok (x, rest))
    (fuel : Nat) (hf : 2 * (renderItems xs).length + 1 ≤ fuel) (acc : List Value)
    (rest : List Char) :
    readItems fuel d ((renderItems xs).toList ++ ']' :: rest) acc =
      .ok (.list (acc.reverse ++ xs), rest) := by
  induction xs generalizing fuel acc with
  | nil => exact absurd rfl hne
  | cons x xs ih =>
    obtain ⟨f, rfl⟩ : ∃ f, fuel = f + 1 := ⟨fuel - 1, by omega⟩
    rw [readItems.eq_2]
    cases xs with
    | nil =>
      -- the last member, then the closing bracket
      rw [renderItems.eq_2] at hf ⊢
      rw [hread x List.mem_cons_self f (by omega) _ (numberEnd_cons (by decide) rest)]
      simp [skipSpace_of_gt (show 0x20 < ']'.toNat by decide)]
    | cons y ys =>
      -- a member, a comma and a space, then the other members
      rw [renderItems.eq_3 _ _ (List.cons_ne_nil y ys)] at hf ⊢
      simp only [String.length_append] at hf
      have hsep : (", " : String).toList = [',', ' '] := by simp
      have hlen : (", " : String).length = 2 := rfl
      rw [hlen] at hf
      simp only [String.toList_append, hsep, List.append_assoc, List.cons_append, List.nil_append]
      rw [hread x List.mem_cons_self f (by omega) _ (numberEnd_cons (by decide) _)]
      simp only [skipSpace_of_gt (show 0x20 < ','.toNat by decide)]
      rw [readItems_space, ih (List.cons_ne_nil y ys)
        (fun z hz => hread z (List.mem_cons_of_mem x hz)) f (by omega) (x :: acc)]
      simp

theorem toList_comma_space : (", " : String).toList = [',', ' '] := by simp

theorem toList_colon_space : (": " : String).toList = [':', ' '] := by simp

theorem length_comma_space : (", " : String).length = 2 := rfl

theorem length_colon_space : (": " : String).length = 2 := rfl

/-- A member `"key": value` followed by the closing brace ends the object. -/
theorem readMembers_last {s : String} (hs : PairsApart s.toList) {f d : Nat} {cs t : List Char}
    {v : Value} (hv : readValue f d cs = .ok (v, '\x7d' :: t)) (acc : List (Value × Value)) :
    readMembers (f + 1) d ((keyText (.str s)).toList ++ ':' :: ' ' :: cs) acc =
      .ok (.dict (Value.setEntry acc (.str s) v), t) := by
  rw [keyText, toList_quote]
  simp only [List.cons_append, List.append_assoc, List.nil_append]
  rw [readMembers.eq_2]
  simp [readStringBody_text hs, skipSpace_of_gt, readValue_space, hv]

/-- A member `"key": value` followed by a comma goes on with the next member. -/
theorem readMembers_next {s : String} (hs : PairsApart s.toList) {f d : Nat} {cs t : List Char}
    {v : Value} (hv : readValue f d cs = .ok (v, ',' :: t)) (acc : List (Value × Value)) :
    readMembers (f + 1) d ((keyText (.str s)).toList ++ ':' :: ' ' :: cs) acc =
      readMembers f d (skipSpace t) (Value.setEntry acc (.str s) v) := by
  rw [keyText, toList_quote]
  simp only [List.cons_append, List.append_assoc, List.nil_append]
  rw [readMembers.eq_2]
  simp [readStringBody_text hs, skipSpace_of_gt, readValue_space, hv]

/-- The members of an object start with the quote of their first key. -/
theorem renderEntries_head {e : Value × Value} (es : List (Value × Value))
    (hk : ∃ k, e.1 = .str k ∧ PairsApart k.toList) :
    ∃ cs, (renderEntries (e :: es)).toList = '"' :: cs := by
  obtain ⟨k, v⟩ := e
  obtain ⟨s, rfl, -⟩ := hk
  obtain ⟨x, hx⟩ : ∃ x : String, renderEntries ((.str s, v) :: es) = keyText (.str s) ++ x := by
    cases es with
    | nil => exact ⟨_, by rw [renderEntries.eq_2, String.append_assoc]⟩
    | cons e' es =>
      exact ⟨_, by rw [renderEntries.eq_3 _ _ _ (List.cons_ne_nil e' es), String.append_assoc,
        String.append_assoc, String.append_assoc]⟩
  rw [hx, String.toList_append, keyText, toList_quote, List.cons_append]
  exact ⟨_, rfl⟩

theorem skipSpace_renderEntries {e : Value × Value} {es : List (Value × Value)}
    (hk : ∃ k, e.1 = .str k ∧ PairsApart k.toList) (tail : List Char) :
    skipSpace ((renderEntries (e :: es)).toList ++ tail) =
      (renderEntries (e :: es)).toList ++ tail := by
  obtain ⟨cs, hcs⟩ := renderEntries_head es hk
  rw [hcs, List.cons_append, skipSpace_of_gt (by decide)]

/-- The members of an object under distinct text keys, each value of which is read back, are
read back up to the closing brace, after the members `acc` read before. -/
theorem readMembers_renderEntries {d : Nat} {es : List (Value × Value)} (hne : es ≠ [])
    (hkeys : ∀ e ∈ es, ∃ k, e.1 = .str k ∧ PairsApart k.toList)
    (hread : ∀ e ∈ es, ∀ fuel, 2 * (render e.2).length ≤ fuel → ∀ rest, NumberEnd rest →
      readValue fuel d ((render e.2).toList ++ rest) = .ok (e.2, rest))
    (fuel : Nat) (hf : 2 * (renderEntries es).length + 1 ≤ fuel) (acc : List (Value × Value))
    (hfresh : ((acc ++ es).map Prod.fst).Pairwise fun a b => Value.sameKey a b = false)
    (rest : List Char) :
    readMembers fuel d ((renderEntries es).toList ++ '\x7d' :: rest) acc =
      .ok (.dict (acc ++ es), rest) := by
  induction es generalizing fuel acc with
  | nil => exact absurd rfl hne
  | cons e es ih =>
    obtain ⟨k, v⟩ := e
    obtain ⟨s, rfl, hs⟩ := hkeys (k, v) List.mem_cons_self
    obtain ⟨f, rfl⟩ : ∃ f, fuel = f + 1 := ⟨fuel - 1, by omega⟩
    -- the key is new, so the member goes last
    have hset : Value.setEntry acc (Value.str s) v = acc ++ [(Value.str s, v)] :=
      setEntry_of_pairwise hfresh
    have hvalue : 2 * (render v).length ≤ f → ∀ rest, NumberEnd rest →
        readValue f d ((render v).toList ++ rest) = .ok (v, rest) :=
      hread (.str s, v) List.mem_cons_self f
    cases es with
    | nil =>
      -- the last member, then the closing brace
      rw [renderEntries.eq_2] at hf ⊢
      simp only [String.length_append, length_colon_space] at hf
      simp only [String.toList_append, toList_colon_space, List.append_assoc, List.cons_append,
        List.nil_append]
      rw [readMembers_last hs (hvalue (by omega) _ (numberEnd_cons (by decide) rest)), hset]
    | cons e' es =>
      -- a member, a comma and a space, then the other members
      rw [renderEntries.eq_3 _ _ _ (List.cons_ne_nil e' es)] at hf ⊢
      simp only [String.length_append, length_colon_space, length_comma_space] at hf
      simp only [String.toList_append, toList_colon_space, toList_comma_space, List.append_assoc,
        List.cons_append, List.nil_append]
      rw [readMembers_next hs (hvalue (by omega) _ (numberEnd_cons (by decide) _)),
        skipSpace_space, hset, skipSpace_renderEntries (hkeys e' (by simp)),
        ih (List.cons_ne_nil e' es)
        (fun e he => hkeys e (List.mem_cons_of_mem _ he))
        (fun e he => hread e (List.mem_cons_of_mem _ he)) f (by omega) _ (by simpa using hfresh)]
      simp

theorem readArray_of_ne {c : Char} (hc : c ≠ ']') (g d : Nat) (cs : List Char) :
    readArray (g + 1) d (c :: cs) = readItems g d (c :: cs) [] := by
  rw [readArray.eq_3 _ _ _ (fun r h => hc (List.cons.inj h).1)]

/-- Distinct text keys are never the same key. -/
theorem pairwise_sameKey_of_nodup {es : List (Value × Value)}
    (hkeys : ∀ e ∈ es, ∃ k, e.1 = .str k ∧ PairsApart k.toList) (hnd : (es.map Prod.fst).Nodup) :
    (es.map Prod.fst).Pairwise fun a b => Value.sameKey a b = false := by
  refine List.Pairwise.imp_of_mem (fun {a b} ha hb hne => ?_) hnd
  obtain ⟨⟨_, _⟩, he, rfl⟩ := List.mem_map.1 ha
  obtain ⟨⟨_, _⟩, he', rfl⟩ := List.mem_map.1 hb
  obtain ⟨k, hk, -⟩ := hkeys _ he
  obtain ⟨k', hk', -⟩ := hkeys _ he'
  simp only at hk hk' hne
  subst hk hk'
  simpa [Value.sameKey] using hne

/-- The text of a plain value is not empty, so reading it takes fuel. -/
theorem exists_succ_of_render {d : Nat} {v : Value} (hv : Plain d v) {fuel : Nat}
    (hf : 2 * (render v).length ≤ fuel) : ∃ f, fuel = f + 1 := by
  obtain ⟨c, cs, h, -⟩ := render_head hv
  have : 0 < (render v).length := by simp [← String.length_toList, h]
  exact ⟨fuel - 1, by omega⟩

/-- An array whose members are read back from their texts is read back from its text. -/
theorem readValue_renderList {d : Nat} {xs : List Value} (hd : d < maxNesting)
    (hxs : ∀ x ∈ xs, Plain (d + 1) x)
    (ih : ∀ x ∈ xs, ∀ fuel, 2 * (render x).length ≤ fuel → ∀ rest, NumberEnd rest →
      readValue fuel (d + 1) ((render x).toList ++ rest) = .ok (x, rest))
    (fuel : Nat) (hf : 2 * (render (.list xs)).length ≤ fuel) (rest : List Char) :
    readValue fuel d ((render (.list xs)).toList ++ rest) = .ok (.list xs, rest) := by
  have htext : (render (.list xs)).toList ++ rest =
      '[' :: ((renderItems xs).toList ++ ']' :: rest) := by
    simp [render]
  have hlen : (render (.list xs)).length = (renderItems xs).length + 2 := by
    have h1 : ("[" : String).length = 1 := rfl
    have h2 : ("]" : String).length = 1 := rfl
    rw [render, String.length_append, String.length_append, h1, h2]
    omega
  obtain ⟨f, rfl⟩ := exists_succ_of_render (Plain.list hd hxs) hf
  rw [htext, readValue.eq_2, skipSpace_of_gt (by decide)]
  simp only [hd, if_true]
  obtain ⟨g, rfl⟩ : ∃ g, f = g + 1 := ⟨f - 1, by omega⟩
  cases xs with
  | nil =>
    rw [renderItems.eq_1]
    simp [skipSpace_of_gt, readArray.eq_2]
  | cons x xs =>
    -- the members start with the text of the first one
    obtain ⟨c, cs, hc, hsp, hbr⟩ := render_head (hxs x List.mem_cons_self)
    obtain ⟨y, hy⟩ : ∃ y : String, renderItems (x :: xs) = render x ++ y := by
      cases xs with
      | nil => exact ⟨"", by rw [renderItems.eq_2, String.append_empty]⟩
      | cons x' xs =>
        exact ⟨_, by rw [renderItems.eq_3 _ _ (List.cons_ne_nil x' xs), String.append_assoc]⟩
    have hfirst : (renderItems (x :: xs)).toList ++ ']' :: rest =
        c :: (cs ++ y.toList ++ ']' :: rest) := by
      rw [hy, String.toList_append, hc]
      simp
    rw [hfirst, skipSpace_of_gt hsp, readArray_of_ne hbr, ← hfirst,
      readItems_renderItems (List.cons_ne_nil x xs) ih g (by omega) [] rest]
    simp

/-- An object with distinct text keys whose values are read back from their texts is read back
from its text. -/
theorem readValue_renderDict {d : Nat} {es : List (Value × Value)} (hd : d < maxNesting)
    (hkeys : ∀ e ∈ es, ∃ k, e.1 = .str k ∧ PairsApart k.toList) (hnd : (es.map Prod.fst).Nodup)
    (hvals : ∀ e ∈ es, Plain (d + 1) e.2)
    (ih : ∀ e ∈ es, ∀ fuel, 2 * (render e.2).length ≤ fuel → ∀ rest, NumberEnd rest →
      readValue fuel (d + 1) ((render e.2).toList ++ rest) = .ok (e.2, rest))
    (fuel : Nat) (hf : 2 * (render (.dict es)).length ≤ fuel) (rest : List Char) :
    readValue fuel d ((render (.dict es)).toList ++ rest) = .ok (.dict es, rest) := by
  have htext : (render (.dict es)).toList ++ rest =
      '\x7b' :: ((renderEntries es).toList ++ '\x7d' :: rest) := by
    simp [render]
  have hlen : (render (.dict es)).length = (renderEntries es).length + 2 := by
    have h1 : ("\x7b" : String).length = 1 := rfl
    have h2 : ("\x7d" : String).length = 1 := rfl
    rw [render, String.length_append, String.length_append, h1, h2]
    omega
  obtain ⟨f, rfl⟩ := exists_succ_of_render (Plain.dict hd hkeys hnd hvals) hf
  rw [htext, readValue.eq_2, skipSpace_of_gt (by decide)]
  simp only [hd, if_true]
  obtain ⟨g, rfl⟩ : ∃ g, f = g + 1 := ⟨f - 1, by omega⟩
  cases es with
  | nil =>
    rw [renderEntries.eq_1]
    simp [skipSpace_of_gt, readObject.eq_2]
  | cons e es =>
    -- the members start with the quote of the first key
    obtain ⟨cs, hcs⟩ := renderEntries_head es (hkeys e List.mem_cons_self)
    rw [skipSpace_renderEntries (hkeys e List.mem_cons_self), hcs, List.cons_append,
      readObject.eq_3 _ _ _ (fun r h => absurd (List.cons.inj h).1 (by decide)),
      ← List.cons_append, ← hcs,
      readMembers_renderEntries (List.cons_ne_nil e es) hkeys ih g (by omega) []
        (by simpa using pairwise_sameKey_of_nodup hkeys hnd) rest]
    simp

/-- A plain value is read back from its text, with twice the text's length as fuel, and with
anything after it that cannot continue a number. -/
theorem readValue_render {d : Nat} {v : Value} (hv : Plain d v) :
    ∀ fuel, 2 * (render v).length ≤ fuel → ∀ rest, NumberEnd rest →
      readValue fuel d ((render v).toList ++ rest) = .ok (v, rest) := by
  induction hv with
  | null =>
    intro fuel hf rest _
    obtain ⟨f, rfl⟩ := exists_succ_of_render (Plain.null (d := 0)) hf
    rw [render, readValue.eq_2]
    simp [skipSpace_of_gt]
  | bool b =>
    intro fuel hf rest _
    obtain ⟨f, rfl⟩ := exists_succ_of_render (Plain.bool (d := 0) b) hf
    cases b
    · rw [render, readValue.eq_2]
      simp [skipSpace_of_gt]
    · rw [render, readValue.eq_2]
      simp [skipSpace_of_gt]
  | int hn =>
    intro fuel hf rest hrest
    obtain ⟨f, rfl⟩ := exists_succ_of_render (Plain.int (d := 0) hn) hf
    exact readValue_int hn f _ hrest
  | str hs =>
    intro fuel hf rest _
    obtain ⟨f, rfl⟩ := exists_succ_of_render (Plain.str (d := 0) hs) hf
    exact readValue_quote hs f _ rest
  | @list d xs hd hxs ih =>
    intro fuel hf rest _
    exact readValue_renderList hd hxs ih fuel hf rest
  | @dict d es hd hkeys hnd hvals ih =>
    intro fuel hf rest _
    exact readValue_renderDict hd hkeys hnd hvals ih fuel hf rest

/-- Plain values are read back from the JSON text they are written as. -/
theorem parse_render {v : Value} (hv : Plain 0 v) : parse (render v) = .ok v := by
  have h := readValue_render hv (4 * ((render v).toList.length + 1))
    (by rw [String.length_toList]; omega) [] trivial
  rw [List.append_nil] at h
  simp [parse, h, skipSpace]

/-! ## Written text is printable ASCII -/

/-- Whether a character is printable ASCII, from the space to the tilde. -/
def isPrintableAscii (c : Char) : Bool := 0x20 ≤ c.toNat && c.toNat ≤ 0x7E

theorem isPrintableAscii_digitChar : ∀ k < 16, isPrintableAscii (Nat.digitChar k) = true := by
  decide

theorem isPrintableAscii_of_escapeOf? {e c : Char} (he : escapeOf? e = some c) :
    isPrintableAscii e = true := by
  unfold escapeOf? at he
  split at he <;> first | rfl | cases he

theorem printable_unitEscape (u : Nat) : ∀ c ∈ unitEscape u, isPrintableAscii c = true := by
  have h16 : ∀ m, m % 16 < 16 := fun m => Nat.mod_lt _ (by decide)
  simp only [unitEscape, toList_hex4, List.mem_cons, List.not_mem_nil, or_false]
  rintro c (rfl | rfl | rfl | rfl | rfl | rfl)
  all_goals first | rfl | exact isPrintableAscii_digitChar _ (h16 _)

/-- Every character of an escaped character is printable ASCII. -/
theorem printable_escapeChar (c : Char) :
    ∀ x ∈ (escapeChar c).toList, isPrintableAscii x = true := by
  have hform := escaped_escapeChar c
  generalize (escapeChar c).toList = w at hform
  cases hform with
  | short he =>
    simp only [List.mem_cons, List.not_mem_nil, or_false]
    rintro x (rfl | rfl)
    · rfl
    · exact isPrintableAscii_of_escapeOf? he
  | unit hc => exact printable_unitEscape _
  | pair hc =>
    intro x hx
    rcases List.mem_append.1 hx with hx | hx
    · exact printable_unitEscape _ x hx
    · exact printable_unitEscape _ x hx
  | plain hq hb hp =>
    simp only [List.mem_cons, List.not_mem_nil, or_false]
    rintro x rfl
    simp [isPrintableAscii, hp.1, hp.2]

theorem printable_quote (s : String) : ∀ x ∈ (quote s).toList, isPrintableAscii x = true := by
  rw [toList_quote]
  intro x hx
  simp only [List.mem_cons, List.mem_append, List.mem_flatMap, List.not_mem_nil, or_false] at hx
  rcases hx with (rfl | ⟨c, -, hc⟩) | rfl
  · rfl
  · exact printable_escapeChar c x hc
  · rfl

theorem printable_toString_int (n : Int) :
    ∀ x ∈ (toString n).toList, isPrintableAscii x = true := by
  rw [toList_toString_int]
  intro x hx
  rcases List.mem_append.1 hx with hx | hx
  · split at hx
    · simp only [List.mem_singleton] at hx
      subst hx
      rfl
    · cases hx
  · have hd := Char.isDigit_iff_toNat.1 ((numeral_toDigits n.natAbs).1 x hx)
    simp only [Char.reduceToNat] at hd
    simp only [isPrintableAscii, Bool.and_eq_true, decide_eq_true_eq]
    omega

theorem printable_append {s t : String} (hs : ∀ x ∈ s.toList, isPrintableAscii x = true)
    (ht : ∀ x ∈ t.toList, isPrintableAscii x = true) :
    ∀ x ∈ (s ++ t).toList, isPrintableAscii x = true := by
  intro x hx
  rw [String.toList_append, List.mem_append] at hx
  exact hx.elim (hs x) (ht x)

theorem printable_renderItems {xs : List Value}
    (h : ∀ x ∈ xs, ∀ c ∈ (render x).toList, isPrintableAscii c = true) :
    ∀ c ∈ (renderItems xs).toList, isPrintableAscii c = true := by
  induction xs with
  | nil => simp [renderItems]
  | cons y ys ih =>
    have hy := h y List.mem_cons_self
    cases ys with
    | nil => rwa [renderItems.eq_2]
    | cons y' ys =>
      -- the first member, a comma and a space, then the others
      rw [renderItems.eq_3 _ _ (List.cons_ne_nil y' ys)]
      exact printable_append (printable_append hy (by simp [isPrintableAscii]))
        (ih fun z hz => h z (List.mem_cons_of_mem _ hz))

theorem printable_renderEntries {es : List (Value × Value)}
    (hkeys : ∀ e ∈ es, ∃ k, e.1 = .str k)
    (h : ∀ e ∈ es, ∀ c ∈ (render e.2).toList, isPrintableAscii c = true) :
    ∀ c ∈ (renderEntries es).toList, isPrintableAscii c = true := by
  induction es with
  | nil => simp [renderEntries]
  | cons e es ih =>
    obtain ⟨k, v⟩ := e
    obtain ⟨s, hs⟩ := hkeys (k, v) List.mem_cons_self
    simp only at hs
    subst hs
    -- a member is a quoted key, a colon, a space and a value
    have hmember : ∀ c ∈ (keyText (.str s) ++ ": " ++ render v).toList,
        isPrintableAscii c = true :=
      printable_append (printable_append (printable_quote s) (by simp [isPrintableAscii]))
        (h _ List.mem_cons_self)
    cases es with
    | nil => rwa [renderEntries.eq_2]
    | cons e' es =>
      rw [renderEntries.eq_3 _ _ _ (List.cons_ne_nil e' es)]
      exact printable_append (printable_append hmember (by simp [isPrintableAscii]))
        (ih (fun e he => hkeys e (List.mem_cons_of_mem _ he))
          fun e he => h e (List.mem_cons_of_mem _ he))

/-- Every character of the text of a plain value is printable ASCII: texts are escaped, so
line breaks and tabs are written as escapes. -/
theorem render_printable {d : Nat} {v : Value} (hv : Plain d v) :
    ∀ x ∈ (render v).toList, isPrintableAscii x = true := by
  induction hv with
  | null => simp [render, isPrintableAscii]
  | bool b => cases b <;> simp [render, isPrintableAscii]
  | int hn => exact printable_toString_int _
  | str hs => exact printable_quote _
  | @list d xs hd hxs ih =>
    rw [render]
    exact printable_append
      (printable_append (by simp [isPrintableAscii]) (printable_renderItems ih))
      (by simp [isPrintableAscii])
  | @dict d es hd hkeys hnd hvals ih =>
    rw [render]
    exact printable_append
      (printable_append (by simp [isPrintableAscii])
        (printable_renderEntries (fun e he => (hkeys e he).imp fun _ h => h.1) ih))
      (by simp [isPrintableAscii])

end CrudScaffold.Data.Json
