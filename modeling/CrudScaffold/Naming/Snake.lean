import CrudScaffold.Text.Blank
import CrudScaffold.Text.Split

/-!
# Snake case

The snake-case form of an identifier is its ASCII letters and digits in lower case, with one
underscore at each word boundary: where a non-alphanumeric character stood, between a
lower-case letter or digit and a capital, and before the last capital of a run of capitals
that a lower-case letter follows (`getHTTPResponse` gives `get_http_response`).
-/

namespace CrudScaffold.Naming

/-- Inserts `_` before the last capital of each run of two or more capitals that a lower-case
letter follows; `run` holds the pending capitals, last first. -/
def breakCapitalRuns : List Char → List Char → List Char
  | [], run => run.reverse
  | c :: cs, run =>
    if c.isUpper then breakCapitalRuns cs (c :: run)
    else if c.isLower then
      match run with
      | u :: us@(_ :: _) => us.reverse ++ '_' :: u :: c :: breakCapitalRuns cs []
      | _ => run.reverse ++ c :: breakCapitalRuns cs []
    else run.reverse ++ c :: breakCapitalRuns cs []

/-- Inserts `_` between a lower-case letter or digit and a capital that follows it. -/
def breakBeforeCapitals : List Char → List Char
  | [] => []
  | a :: rest =>
    match rest with
    | b :: _ =>
      if (a.isLower || a.isDigit) && b.isUpper then a :: '_' :: breakBeforeCapitals rest
      else a :: breakBeforeCapitals rest
    | [] => [a]

/-- The alphanumeric pieces of a marked identifier: the text between non-alphanumeric
characters, empty pieces left out. -/
def snakePieces (cs : List Char) : List (List Char) :=
  (Text.splitWhen (fun c => !c.isAlphanum) (breakBeforeCapitals (breakCapitalRuns cs []))).filter
    (· ≠ [])

/-- The snake-case form of an identifier. -/
def snake (s : String) : String :=
  String.ofList ((List.intercalate ['_'] (snakePieces s.toList)).map Char.toLower)

end CrudScaffold.Naming
