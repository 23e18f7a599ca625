/-!
# Words of an identifier

An identifier in any casing style is read as a list of words. Only ASCII letters and digits
belong to words; every other character separates them. A word is a run of digits, a run of
capitals, or a run of lower-case letters with at most one capital in front. A run of
capitals gives its last letter to a lower-case run that follows it, so `HTTPResponse` reads
as `http`, `response`.
-/

namespace CrudScaffold.Naming

/-- The kind of word being read. -/
inductive WordKind where
  | gap
  | lower
  | upper
  | digits
  deriving DecidableEq

/-- The finished word `cur`, kept last letter first, in front of the words `rest`. -/
def closeWord (cur : List Char) (rest : List (List Char)) : List (List Char) :=
  if cur.isEmpty then rest else cur.reverse :: rest

/-- Reads the words of `cs`, given the word `cur` read so far (last letter first) and its
kind. -/
def scanWords : List Char → WordKind → List Char → List (List Char)
  | [], _, cur => closeWord cur []
  | c :: cs, k, cur =>
    if c.isDigit then
      if k = .digits then scanWords cs .digits (c :: cur)
      else closeWord cur (scanWords cs .digits [c])
    else if c.isLower then
      match k, cur with
      | .lower, _ => scanWords cs .lower (c :: cur)
      | .upper, [u] => scanWords cs .lower [c, u]
      | .upper, u :: us@(_ :: _) => closeWord us (scanWords cs .lower [c, u])
      | _, _ => closeWord cur (scanWords cs .lower [c])
    else if c.isUpper then
      if k = .upper then scanWords cs .upper (c :: cur)
      else closeWord cur (scanWords cs .upper [c])
    else
      closeWord cur (scanWords cs .gap [])

/-- The words of a text, in lower case. -/
def words (s : String) : List String :=
  (scanWords s.toList .gap []).map fun w => String.ofList (w.map Char.toLower)

/-- A word with its first letter in upper case and the others in lower case (ASCII). -/
def capitalize (w : String) : String :=
  match w.toList with
  | [] => ""
  | c :: cs => String.ofList (c.toUpper :: cs.map Char.toLower)

/-- The words of an identifier, capitalised and joined by single spaces. -/
def title (s : String) : String := " ".intercalate ((words s).map capitalize)

theorem closeWord_nil (rest : List (List Char)) : closeWord [] rest = rest := rfl

end CrudScaffold.Naming
