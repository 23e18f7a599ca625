import CrudScaffold.Data.Numeral
import CrudScaffold.Text.Blank

/-!
# Lenient readings of integers and flags

Settings given as text, or as a number of another kind, are read leniently by these rules.

A text is an integer when, trimmed of white space, it is a decimal integer in the strict
form of a JSON number (an optional `-`, no `+`, no leading zero, nothing after the digits),
or when its cleaned form is: a leading `+` before a digit dropped, the zeros after the sign
dropped together with the underscores among them, a fraction of zeros dropped, and the
underscores that stand between two digits dropped. A strict number longer than 4300
characters is too long; a cleaned form that long is no integer.

A double is an integer when it is finite, whole, and strictly between -2^63 and 2^63.
-/

namespace CrudScaffold.Config

open CrudScaffold.Data CrudScaffold.Text

/-- Why a text does not read as an integer. -/
inductive IntTextFault where
  | tooLong
  | malformed
  deriving DecidableEq, Repr

/-- The flag a text spells, in any case of the ASCII letters. -/
def flagOfText? (s : String) : Option Bool :=
  let t := s.toList.map Char.toLower
  if s == "0" || ["f", "n", "no", "off", "false"].any (·.toList == t) then some false
  else if s == "1" || ["t", "y", "on", "yes", "true"].any (·.toList == t) then some true
  else none

/-- Whether an integer fits in 64 signed bits. -/
def fitsWord (n : Int) : Bool := -(Int.pow 2 63) ≤ n && n < Int.pow 2 63

/-- The most characters a number may have, its sign included. -/
def maxNumberLength : Nat := 4300

/-- Whether a character is a digit other than zero. -/
def isNonZeroDigit (c : Char) : Bool := '1' ≤ c && c ≤ '9'

/-- Reads a decimal integer in the strict form of a JSON number: an optional `-`, then `0`
alone or a digit other than `0` followed by digits, and nothing after. A run of digits that
makes the number longer than `maxNumberLength` is too long, whatever follows it. -/
def strictInteger (cs : List Char) : Except IntTextFault Int :=
  let (neg, rest) : Bool × List Char := match cs with
    | '-' :: r => (true, r)
    | r => (false, r)
  match rest with
  | ['0'] => .ok 0
  | d :: _ =>
    if isNonZeroDigit d then
      let run := rest.takeWhile Char.isDigit
      if (if neg then 1 else 0) + run.length > maxNumberLength then .error .tooLong
      else if run.length == rest.length then
        let n : Int := digitsValue run
        .ok (if neg then -n else n)
      else .error .malformed
    else .error .malformed
  | [] => .error .malformed

/-- Drops the zeros that lead a number and the underscores among them, refusing a text that
does not start like a number; a point keeps the zero before it, and a text of zeros and
underscores keeps its last character. -/
def stripLeadingZeros : List Char → Option (List Char)
  | '0' :: rest => afterZeros '0' rest
  | c :: rest => if isNonZeroDigit c || c == '-' then some (c :: rest) else none
  | [] => none
where
  -- Goes on past zeros and underscores; `last` is the character last passed.
  afterZeros (last : Char) : List Char → Option (List Char)
    | c :: rest =>
      if c == '0' || c == '_' then afterZeros c rest
      else if isNonZeroDigit c || c == '-' then some (c :: rest)
      else if c == '.' then some (last :: c :: rest)
      else none
    | [] => some [last]

/-- The text before the first point, when the point is followed by zeros and nothing else. -/
def stripDecimalZeros (cs : List Char) : Option (List Char) :=
  match cs.dropWhile (· ≠ '.') with
  | '.' :: frac =>
    if !frac.isEmpty && frac.all (· == '0') then some (cs.takeWhile (· ≠ '.')) else none
  | _ => none

/-- The text without its underscores, when each stands between two digits. -/
def stripUnderscores (cs : List Char) : Option (List Char) :=
  if underscoresBetweenDigits none cs then some (cs.filter (· ≠ '_')) else none

/-- The sign of a trimmed text and what follows it: a `+` must come before a digit and is
dropped, a `-` is kept. -/
def splitSign : List Char → Option (List Char × List Char)
  | '+' :: d :: rest => if d.isDigit then some ([], d :: rest) else none
  | ['+'] => none
  | '-' :: rest => some (['-'], rest)
  | rest => some ([], rest)

/-- The cleaned form of a trimmed text (see the module doc), or none when the text does not
start like a number or has a misplaced underscore. -/
def cleanInteger (cs : List Char) : Option (List Char) := do
  let (sign, body) ← splitSign cs
  let body ← stripLeadingZeros body
  let t := sign ++ body
  stripUnderscores ((stripDecimalZeros t).getD t)

/-- The integer a text spells, read leniently: trimmed of white space, in strict form, or
else in its cleaned form. -/
def intOfText (s : String) : Except IntTextFault Int :=
  let cs := trimBy isWhiteSpace s.toList
  match strictInteger cs with
  | .ok n => .ok n
  | .error .tooLong => .error .tooLong
  | .error .malformed =>
    match cleanInteger cs with
    | some c =>
      match strictInteger c with
      | .ok n => .ok n
      | .error _ => .error .malformed
    | none => .error .malformed

/-- How a double reads as an integer. -/
inductive WholeDouble where
  | notFinite
  | fractional
  | outOfRange
  | whole (n : Int)
  deriving DecidableEq, Repr

/-- How a double reads as an integer: it must be finite, whole and strictly between -2^63
and 2^63. -/
def wholeOfDouble (x : Float) : WholeDouble :=
  if (Float.binary? x).isNone then .notFinite
  else match Float.integer? x with
    | none => .fractional
    | some n => if -(Int.pow 2 63) < n && n < Int.pow 2 63 then .whole n else .outOfRange

end CrudScaffold.Config
