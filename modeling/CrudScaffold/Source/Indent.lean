import CrudScaffold.Text.Blank

/-!
# Indentation

Indenting a block of source text puts the same number of spaces in front of every line that
is not blank. Lines are separated by `\n` only; a blank line stays as it is, so no line of
the result ends in spaces that the input did not have.
-/

namespace CrudScaffold.Source

open CrudScaffold.Text

/-- `level * size` spaces; none when the product is negative. -/
def indentPrefix (level size : Int) : String :=
  String.ofList (List.replicate (level * size).toNat ' ')

/-- Puts `pre` in front of every line of `s` that holds a non-blank character. -/
def prefixLines (pre : String) (s : String) : String :=
  "\n".intercalate ((s.splitOn "\n").map fun line =>
    if line.toList.all isBlank then line else pre ++ line)

/-- Indents every non-blank line of `s` by `level * size` spaces. -/
def indent (s : String) (level size : Int) : String := prefixLines (indentPrefix level size) s

theorem indentPrefix_neg (level size : Int) (h : level * size ≤ 0) :
    indentPrefix level size = "" := by
  simp [indentPrefix, Int.toNat_eq_zero.mpr h]

end CrudScaffold.Source
