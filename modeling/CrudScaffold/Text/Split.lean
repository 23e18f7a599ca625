/-!
# Cutting texts

Cutting a text at separator characters. `splitWhen` cuts at every separator and keeps empty
pieces, so it always returns one piece more than there are separators. `splitLast` and
`splitFirst` cut once, at the last or the first occurrence of a character.
-/

namespace CrudScaffold.Text

/-- Cuts a list at every character satisfying `p`; the cut characters are dropped and empty
pieces are kept, so there is always one piece more than there are cuts. -/
def splitWhen (p : Char → Bool) : List Char → List (List Char)
  | [] => [[]]
  | c :: cs =>
    if p c then [] :: splitWhen p cs
    else
      match splitWhen p cs with
      | [] => [[c]]
      | w :: ws => (c :: w) :: ws

theorem splitWhen_ne_nil (p : Char → Bool) (cs : List Char) : splitWhen p cs ≠ [] := by
  cases cs with
  | nil => simp [splitWhen]
  | cons c cs =>
    simp only [splitWhen]
    split
    · simp
    · split <;> simp

/-- The text before the last `c` and the text after it; without a `c`, the first part is
empty and the second is the whole text. -/
def splitLast (c : Char) (s : String) : String × String :=
  let cs := s.toList
  if cs.contains c then
    (String.ofList (cs.reverse.dropWhile (· ≠ c)).reverse.dropLast,
     String.ofList (cs.reverse.takeWhile (· ≠ c)).reverse)
  else ("", s)

/-- The text before the first `c` and the text after it; without a `c`, the second part is
empty and the first is the whole text. -/
def splitFirst (c : Char) (s : String) : String × String :=
  let cs := s.toList
  (String.ofList (cs.takeWhile (· ≠ c)), String.ofList ((cs.dropWhile (· ≠ c)).drop 1))

end CrudScaffold.Text
