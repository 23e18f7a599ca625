import CrudScaffold.Text.Case

/-!
# Plurals of table names

English plurals as far as table names need them. Only the part after the last underscore is
changed, so `blog_post` becomes `blog_posts`. A short list of irregular nouns comes first;
then a word that already ends in `s` (but not `ss`, `us` or `is`) is kept, and the usual
endings follow: `-es` after a sibilant, `-ies` after a consonant and `y`, `-ves` for `f` and
`fe`, `-es` after a consonant and `o`, and `-s` otherwise. Endings are tested on the lower-case
form of the word.
-/

namespace CrudScaffold.Naming

open CrudScaffold.Text

/-- Irregular nouns and their plurals. -/
def irregularPlurals : List (String × String) :=
  [("person", "people"), ("child", "children"), ("man", "men"), ("woman", "women"),
   ("mouse", "mice"), ("goose", "geese"), ("tooth", "teeth"), ("foot", "feet"),
   ("datum", "data"), ("index", "indices"), ("matrix", "matrices"), ("vertex", "vertices"),
   ("axis", "axes"), ("crisis", "crises"), ("analysis", "analyses"), ("status", "statuses"),
   ("address", "addresses")]

/-- Whether `w` ends with the characters of `e`. -/
def endsWithText (w : List Char) (e : String) : Bool := e.toList.isSuffixOf w

/-- Whether the next-to-last character of `w` is not a vowel. -/
def consonantBeforeLast (w : List Char) : Bool :=
  match w.reverse with
  | _ :: c :: _ => !"aeiou".toList.contains c
  | _ => true

/-- The plural of one word (no underscore inside). -/
def pluralWord (w : List Char) : List Char :=
  if w.isEmpty then []
  else
    let low := lowerList w
    match irregularPlurals.lookup (String.ofList low) with
    | some p =>
      match w, p.toList with
      | c :: _, q :: qs => if isUppercase c then upperChar q ++ qs else q :: qs
      | _, qs => qs
    | none =>
      if endsWithText low "s" && !(["ss", "us", "is"].any (endsWithText low)) then w
      else if ["sh", "ch", "x", "z", "ss", "us", "is"].any (endsWithText low) then
        w ++ "es".toList
      else if endsWithText low "y" && 1 < w.length && consonantBeforeLast low then
        w.dropLast ++ "ies".toList
      else if endsWithText low "fe" then w.dropLast.dropLast ++ "ves".toList
      else if endsWithText low "f" then w.dropLast ++ "ves".toList
      else if endsWithText low "o" && 1 < w.length && consonantBeforeLast low then
        w ++ "es".toList
      else w ++ "s".toList

/-- The plural of a table name: its part after the last underscore is made plural. -/
def plural (name : String) : String :=
  let cs := name.toList
  if cs.contains '_' then
    let head := (cs.reverse.dropWhile (· ≠ '_')).reverse
    let tail := (cs.reverse.takeWhile (· ≠ '_')).reverse
    String.ofList (head ++ pluralWord tail)
  else
    String.ofList (pluralWord cs)

theorem pluralWord_nil : pluralWord [] = [] := rfl

end CrudScaffold.Naming
