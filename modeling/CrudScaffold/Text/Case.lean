import CrudScaffold.Text.CaseTable
import CrudScaffold.Text.CaseProperty

/-!
# Full case maps

Lower and upper case of a character as Unicode defines them, together with the characters
whose case form has more than one code point: `ß` upper-cases to `SS` and `İ` lower-cases
to `i` followed by a combining dot. A character that no table lists keeps its case.

The capital sigma alone depends on its neighbours when lower-cased: it becomes the final
sigma `ς` at the end of a word, where a cased character comes before it and none after it,
case-ignorable characters in between skipped; elsewhere it becomes `σ`.
-/

namespace CrudScaffold.Text

/-- The image of `n` under the run, when the run holds `n`. -/
def CaseRun.image? (r : CaseRun) (n : Nat) : Option Nat :=
  if r.first ≤ n ∧ n ≤ r.last ∧ (n - r.first) % r.step = 0 then
    some (n + r.delta).toNat
  else
    none

/-- Whether the range holds `n`. -/
def StepRange.contains (r : StepRange) (n : Nat) : Bool :=
  decide (r.first ≤ n ∧ n ≤ r.last ∧ (n - r.first) % r.step = 0)

/-- The case form of `c` under the map given by its expansions and its runs. -/
def caseForm (expansions : List (Nat × List Nat)) (runs : List CaseRun) (c : Char) :
    List Char :=
  match expansions.lookup c.toNat with
  | some ns => ns.map Char.ofNat
  | none =>
    match runs.findSome? (·.image? c.toNat) with
    | some n => [Char.ofNat n]
    | none => [c]

/-- Full lower-case form of a character. -/
def lowerChar : Char → List Char := caseForm lowerExpansions lowerRuns

/-- Full upper-case form of a character. -/
def upperChar : Char → List Char := caseForm upperExpansions upperRuns

/-- Whether a character has the Unicode property Uppercase. -/
def isUppercase (c : Char) : Bool := upperRanges.any (·.contains c.toNat)

/-- The capital sigma. -/
def capitalSigma : Char := 'Σ'

/-- Whether a capital sigma ends a word: the first character before it that is not
case-ignorable is cased, and the first such character after it is not. `before` holds the
characters before the sigma, nearest first; `after` those after it. -/
def isFinalSigma (before after : List Char) : Bool :=
  (match before.dropWhile isCaseIgnorable with
    | c :: _ => isCased c
    | [] => false) &&
  (match after.dropWhile isCaseIgnorable with
    | c :: _ => !isCased c
    | [] => true)

/-- Lower case of the characters of a text that follow `before` (nearest first). -/
def lowerAfter (before : List Char) : List Char → List Char
  | [] => []
  | c :: rest =>
    let low :=
      if c == capitalSigma then [if isFinalSigma before rest then 'ς' else 'σ'] else lowerChar c
    low ++ lowerAfter (c :: before) rest

/-- Lower case of a text, character by character, the capital sigma by its place. -/
def lowerList (cs : List Char) : List Char := lowerAfter [] cs

/-- Upper case of every character, in order. -/
def upperList (cs : List Char) : List Char := cs.flatMap upperChar

/-- Full lower case of a text; it may be longer than the text. -/
def lower (s : String) : String := String.ofList (lowerList s.toList)

/-- Full upper case of a text; it may be longer than the text. -/
def upper (s : String) : String := String.ofList (upperList s.toList)

/-- Lower case of the ASCII letters only. -/
def asciiLower (s : String) : String := String.ofList (s.toList.map Char.toLower)

theorem lowerAfter_of_no_sigma (before cs : List Char) (h : capitalSigma ∉ cs) :
    lowerAfter before cs = cs.flatMap lowerChar := by
  induction cs generalizing before with
  | nil => rfl
  | cons c rest ih =>
    simp only [List.mem_cons, not_or] at h
    have hc : (c == capitalSigma) = false := by simpa using Ne.symm h.1
    simp [lowerAfter, hc, ih (c :: before) h.2]

theorem lowerList_of_no_sigma (cs : List Char) (h : capitalSigma ∉ cs) :
    lowerList cs = cs.flatMap lowerChar :=
  lowerAfter_of_no_sigma [] cs h

theorem upperList_append (xs ys : List Char) :
    upperList (xs ++ ys) = upperList xs ++ upperList ys := by
  simp [upperList]

end CrudScaffold.Text
