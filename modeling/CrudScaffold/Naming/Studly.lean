import CrudScaffold.Text.Blank
import CrudScaffold.Text.Split
import CrudScaffold.Text.Case

/-!
# Capitals at the front

`ucfirst` and `lcfirst` change the case of the first character only, with the full Unicode
case maps, so the text may grow (`ŉ` upper-cases to two characters). `studly` upper-cases
the first character of every word between blanks, underscores and hyphens and joins the
words. `shortName` is the last segment of a dotted or slashed path with `lcfirst` applied.
-/

namespace CrudScaffold.Naming

open CrudScaffold.Text

/-- The first character in upper case, the rest unchanged. -/
def ucfirst (s : String) : String :=
  match s.toList with
  | [] => ""
  | c :: cs => String.ofList (upperChar c ++ cs)

/-- The first character in lower case, the rest unchanged. -/
def lcfirst (s : String) : String :=
  match s.toList with
  | [] => ""
  | c :: cs => String.ofList (lowerChar c ++ cs)

/-- Characters that separate the words of a studly name. -/
def isWordBreak (c : Char) : Bool := isBlank c || c == '_' || c == '-'

/-- The words between blanks, underscores and hyphens, each with `ucfirst`, joined. -/
def studly (s : String) : String :=
  String.join (((splitWhen isWordBreak s.toList).filter (· ≠ [])).map
    fun w => ucfirst (String.ofList w))

/-- Characters that separate the segments of a qualified name or a path. -/
def isPathBreak (c : Char) : Bool := c == '.' || c == '/' || c == '\\'

/-- The last segment of a qualified name, with its first character in lower case. -/
def shortName (s : String) : String :=
  lcfirst (String.ofList ((splitWhen isPathBreak s.toList).getLast?.getD []))

end CrudScaffold.Naming
