import CrudScaffold.Text.Digit
import CrudScaffold.Data.Decimal

/-!
# Numerals of the number constructors

How the constructors of integers and doubles read a text. The text is first taken to its
ASCII form (`Text.asciiNumeral`), so that digits of every script and every white space count.

An integer numeral of base `b` is then: ASCII white space, an optional sign, the prefix `0b`,
`0o` or `0x` when `b` is 2, 8 or 16 (with one optional underscore after it), digits of the
base with single underscores between them, and ASCII white space. A base that is no power of
two allows at most `maxNumeralDigits` digits; a longer run of digits is refused for its
length before anything after it is looked at.

A double numeral is ASCII white space, a decimal number or an infinity or NaN word with an
optional sign, and ASCII white space; an underscore must stand between two digits.
-/

namespace CrudScaffold.Data

open CrudScaffold.Text

/-- Why a text is no numeral. -/
inductive NumeralFault where
  | invalid
  | tooManyDigits (count : Nat)
  deriving DecidableEq, Repr

/-- The most digits a numeral of a base that is no power of two may have. -/
def maxNumeralDigits : Nat := 4300

/-- The message that refuses a numeral of `count` digits for its length. -/
def tooManyDigitsMessage (count : Nat) : String :=
  s!"Exceeds the limit ({maxNumeralDigits} digits) for integer string conversion: " ++
    s!"value has {count} digits; use sys.set_int_max_str_digits() to increase the limit"

/-- The value of a character as a digit: the digits count 0 to 9 and the letters of either
case 10 to 35. -/
def digitValue? (c : Char) : Option Nat :=
  if '0' ≤ c && c ≤ '9' then some (c.toNat - '0'.toNat)
  else if 'a' ≤ c && c ≤ 'z' then some (c.toNat - 'a'.toNat + 10)
  else if 'A' ≤ c && c ≤ 'Z' then some (c.toNat - 'A'.toNat + 10)
  else none

/-- Whether a character is a digit of base `b`. -/
def isDigitOf (b : Nat) (c : Char) : Bool := (digitValue? c).any (· < b)

/-- Whether two underscores stand next to each other. -/
def hasDoubleUnderscore : List Char → Bool
  | '_' :: '_' :: _ => true
  | _ :: rest => hasDoubleUnderscore rest
  | [] => false

/-- Whether a base is a power of two. -/
def isPowerOfTwo (b : Nat) : Bool := b != 0 && b &&& (b - 1) == 0

/-- The letter of the prefix that introduces a numeral of base `b`, if it has one. -/
def prefixLetter? (b : Nat) : Option Char :=
  if b == 2 then some 'b' else if b == 8 then some 'o' else if b == 16 then some 'x' else none

/-- Drops the prefix of base `b` and one underscore after it, when the text starts with it. -/
def dropBasePrefix (b : Nat) (cs : List Char) : List Char :=
  match cs, prefixLetter? b with
  | '0' :: p :: rest, some l =>
    if p.toLower == l then
      match rest with
      | '_' :: r => r
      | r => r
    else cs
  | _, _ => cs

/-- The integer an ASCII numeral of base `b` spells. -/
def readInteger (b : Nat) (cs : List Char) : Except NumeralFault Int := do
  let cs := cs.dropWhile isAsciiSpace
  let (neg, cs) : Bool × List Char := match cs with
    | '-' :: r => (true, r)
    | '+' :: r => (false, r)
    | r => (false, r)
  let cs := dropBasePrefix b cs
  if cs.head? == some '_' then throw .invalid
  let inRun (c : Char) : Bool := isDigitOf b c || c == '_'
  let run := cs.takeWhile inRun
  if hasDoubleUnderscore run || run.getLast? == some '_' then throw .invalid
  let digits := run.filter (· != '_')
  if !isPowerOfTwo b && digits.length > maxNumeralDigits then
    throw (.tooManyDigits digits.length)
  if digits.isEmpty || !((cs.dropWhile inRun).all isAsciiSpace) then throw .invalid
  let n := digits.foldl (fun n c => b * n + (digitValue? c).getD 0) 0
  return if neg then -(n : Int) else n

/-- The integer a text of any script spells as a numeral of base `b`. -/
def intOfNumeral (b : Nat) (s : String) : Except NumeralFault Int :=
  readInteger b (asciiNumeral s.toList)

/-- Whether every underscore stands between two ASCII digits. -/
def underscoresBetweenDigits : Option Char → List Char → Bool
  | prev, '_' :: rest =>
    (prev.any Char.isDigit) && (rest.head?.any Char.isDigit) && underscoresBetweenDigits (some '_') rest
  | _, c :: rest => underscoresBetweenDigits (some c) rest
  | _, [] => true

/-- The double that an infinity or NaN word names, after an optional sign: `inf`,
`infinity` or `nan` in any case. -/
def specialDouble? (cs : List Char) : Option Float :=
  let (neg, body) : Bool × List Char := match cs with
    | '-' :: r => (true, r)
    | '+' :: r => (false, r)
    | r => (false, r)
  let word := String.ofList (body.map Char.toLower)
  if word == "inf" || word == "infinity" then some (if neg then -(1.0 / 0.0) else 1.0 / 0.0)
  else if word == "nan" then some (0.0 / 0.0)
  else none

/-- The double an ASCII numeral spells. -/
def readDouble (cs : List Char) : Option Float :=
  if !underscoresBetweenDigits none cs || cs.contains (Char.ofNat 0) then none
  else
    let body := trimBy isAsciiSpace (cs.filter (· != '_'))
    if body.isEmpty then none
    else (specialDouble? body).orElse fun _ => parseDecimal? (String.ofList body)

/-- The double a text of any script spells. -/
def floatOfNumeral (s : String) : Option Float := readDouble (asciiNumeral s.toList)

end CrudScaffold.Data
