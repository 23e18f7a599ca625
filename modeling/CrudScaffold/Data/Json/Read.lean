import CrudScaffold.Data.Value
import CrudScaffold.Data.Decimal
import CrudScaffold.Data.Numeral
import CrudScaffold.Text.Surrogate

/-!
# Reading JSON

A JSON text is read into a `Value`. Besides the standard grammar the reader accepts the
words `NaN`, `Infinity` and `-Infinity`. A number with a fraction or an exponent is a
double; any other number is an integer of any size. In an object a repeated key keeps its
first place and takes its last value. Control characters inside strings are refused, and
an escaped lone surrogate is carried as `Text.Surrogate` describes. An integer of more than
`maxNumeralDigits` digits stops the reading with its own fault, wherever it stands, and
so does an array or object opened inside `maxNesting` others: the reader descends one level
of its stack for each, and its stack has room for that many.

Each reading step takes the remaining characters and returns what it read together with
the characters after it. The steps that nest carry a fuel argument, and `Json.parse`
starts them with four times as much fuel as the text has characters: a step reads at least
one character for every three levels it descends.
-/

namespace CrudScaffold.Data.Json

/-- Why a text is not read as JSON. -/
inductive Fault where
  | malformed
  | tooManyDigits (count : Nat)
  | tooDeep (array : Bool)
  deriving DecidableEq, Repr

/-- How many arrays and objects may be open at once. -/
def maxNesting : Nat := 992

/-- What a reading step gives: a value and the characters after it. -/
abbrev Step := Except Fault (Value × List Char)

/-- Drops JSON white space (space, tab, line feed, carriage return) from the front. -/
def skipSpace : List Char → List Char
  | c :: cs => if c == ' ' || c == '\t' || c == '\n' || c == '\r' then skipSpace cs else c :: cs
  | [] => []

/-- The value of a hexadecimal digit. -/
def hexValue? (c : Char) : Option Nat :=
  if c.isDigit then some (c.toNat - '0'.toNat)
  else if 'a' ≤ c && c ≤ 'f' then some (c.toNat - 'a'.toNat + 10)
  else if 'A' ≤ c && c ≤ 'F' then some (c.toNat - 'A'.toNat + 10)
  else none

/-- The number that four hexadecimal digits spell. -/
def hex4? (a b c d : Char) : Option Nat := do
  let va ← hexValue? a
  let vb ← hexValue? b
  let vc ← hexValue? c
  let vd ← hexValue? d
  pure (((va * 16 + vb) * 16 + vc) * 16 + vd)

/-- The character of a code point, a surrogate carried. -/
def charOf (n : Nat) : Char := Text.charOfCode n

/-- The character that a one-letter escape stands for. -/
def escapeOf? (c : Char) : Option Char :=
  match c with
  | '"' => some '"'
  | '\\' => some '\\'
  | '/' => some '/'
  | 'b' => some '\x08'
  | 'f' => some '\x0c'
  | 'n' => some '\n'
  | 'r' => some '\r'
  | 't' => some '\t'
  | _ => none

/-- Reads the body of a string after its opening quote, up to and including the closing
quote; `acc` holds the characters read so far, last first. A high surrogate escape followed
by a low one is one character. -/
def readStringBody : List Char → List Char → Option (String × List Char)
  | [], _ => none
  | '"' :: rest, acc => some (String.ofList acc.reverse, rest)
  | '\\' :: 'u' :: a :: b :: c :: d :: rest, acc =>
    match hex4? a b c d with
    | none => none
    | some hi =>
      if 0xD800 ≤ hi ∧ hi < 0xDC00 then
        match _hr : rest with
        | '\\' :: 'u' :: e :: f :: g :: h :: rest' =>
          match hex4? e f g h with
          | none => none
          | some lo =>
            if 0xDC00 ≤ lo ∧ lo < 0xE000 then
              readStringBody rest'
                (Char.ofNat (0x10000 + (hi - 0xD800) * 0x400 + (lo - 0xDC00)) :: acc)
            else readStringBody rest (charOf hi :: acc)
        | _ => readStringBody rest (charOf hi :: acc)
      else readStringBody rest (charOf hi :: acc)
  | '\\' :: e :: rest, acc =>
    match escapeOf? e with
    | some c => readStringBody rest (c :: acc)
    | none => none
  | c :: rest, acc => if c.toNat < 0x20 then none else readStringBody rest (c :: acc)
termination_by cs => cs.length
decreasing_by all_goals (simp_all; try omega)

/-- Splits off an optional minus sign. -/
def readMinus : List Char → Bool × List Char
  | '-' :: r => (true, r)
  | r => (false, r)

/-- Reads the integer part of a number: a lone zero, or digits that start with no zero. -/
def readWhole : List Char → Option (List Char × List Char)
  | '0' :: r => some (['0'], r)
  | c :: r =>
    if c.isDigit then some (c :: r.takeWhile Char.isDigit, r.dropWhile Char.isDigit) else none
  | [] => none

/-- Reads the digits of a fraction: a point and at least one digit, or nothing. -/
def readFraction (cs : List Char) : List Char × List Char :=
  match cs with
  | '.' :: d :: r =>
    if d.isDigit then (d :: r.takeWhile Char.isDigit, r.dropWhile Char.isDigit) else ([], cs)
  | _ => ([], cs)

/-- Reads an exponent: `e` or `E`, an optional sign and at least one digit, or nothing. -/
def readExponent (cs : List Char) : Option Int × List Char :=
  match cs with
  | e :: r =>
    if e == 'e' || e == 'E' then
      let (eneg, r') := match r with
        | '-' :: t => (true, t)
        | '+' :: t => (false, t)
        | t => (false, t)
      let ds := r'.takeWhile Char.isDigit
      if ds.isEmpty then (none, cs)
      else
        let n : Int := digitsValue ds
        (some (if eneg then -n else n), r'.dropWhile Char.isDigit)
    else (none, cs)
  | [] => (none, cs)

/-- Reads a number: an optional minus, an integer part without leading zeros, an optional
fraction and an optional exponent. An integer of too many digits is refused. -/
def readNumber (cs : List Char) : Step :=
  let (neg, r) := readMinus cs
  match readWhole r with
  | none => .error .malformed
  | some (whole, r) =>
    let (frac, r) := readFraction r
    let (exp, r) := readExponent r
    if frac.isEmpty && exp.isNone then
      if whole.length > maxNumeralDigits then .error (.tooManyDigits whole.length)
      else
        let n : Int := digitsValue whole
        .ok (.int (if neg then -n else n), r)
    else
      .ok (.float (decimalToFloat neg (digitsValue (whole ++ frac))
        (exp.getD 0 - frac.length)), r)

mutual
/-- Reads one value after white space, inside `depth` open arrays and objects. -/
def readValue : Nat → Nat → List Char → Step
  | 0, _, _ => .error .malformed
  | fuel + 1, depth, cs =>
    match skipSpace cs with
    | '"' :: r =>
      match readStringBody r [] with
      | some (s, r) => .ok (.str s, r)
      | none => .error .malformed
    | '{' :: r =>
      if depth < maxNesting then readObject fuel (depth + 1) (skipSpace r)
      else .error (.tooDeep false)
    | '[' :: r =>
      if depth < maxNesting then readArray fuel (depth + 1) (skipSpace r)
      else .error (.tooDeep true)
    | 'n' :: 'u' :: 'l' :: 'l' :: r => .ok (.null, r)
    | 't' :: 'r' :: 'u' :: 'e' :: r => .ok (.bool true, r)
    | 'f' :: 'a' :: 'l' :: 's' :: 'e' :: r => .ok (.bool false, r)
    | 'N' :: 'a' :: 'N' :: r => .ok (.float (0 / 0), r)
    | 'I' :: 'n' :: 'f' :: 'i' :: 'n' :: 'i' :: 't' :: 'y' :: r => .ok (.float (1 / 0), r)
    | '-' :: 'I' :: 'n' :: 'f' :: 'i' :: 'n' :: 'i' :: 't' :: 'y' :: r => .ok (.float (-1 / 0), r)
    | r => readNumber r

/-- Reads the members of an array after its opening bracket and white space. -/
def readArray : Nat → Nat → List Char → Step
  | 0, _, _ => .error .malformed
  | fuel + 1, depth, cs =>
    match cs with
    | ']' :: r => .ok (.list [], r)
    | _ => readItems fuel depth cs []

/-- Reads array members separated by commas up to the closing bracket; `acc` holds the
members read so far, last first. -/
def readItems : Nat → Nat → List Char → List Value → Step
  | 0, _, _, _ => .error .malformed
  | fuel + 1, depth, cs, acc =>
    match readValue fuel depth cs with
    | .error e => .error e
    | .ok (v, r) =>
      match skipSpace r with
      | ']' :: r' => .ok (.list (v :: acc).reverse, r')
      | ',' :: r' => readItems fuel depth r' (v :: acc)
      | _ => .error .malformed

/-- Reads the members of an object after its opening brace and white space. -/
def readObject : Nat → Nat → List Char → Step
  | 0, _, _ => .error .malformed
  | fuel + 1, depth, cs =>
    match cs with
    | '}' :: r => .ok (.dict [], r)
    | _ => readMembers fuel depth cs []

/-- Reads `"key": value` members separated by commas up to the closing brace; `acc` holds
the entries read so far. -/
def readMembers : Nat → Nat → List Char → List (Value × Value) → Step
  | 0, _, _, _ => .error .malformed
  | fuel + 1, depth, cs, acc =>
    match cs with
    | '"' :: r =>
      match readStringBody r [] with
      | none => .error .malformed
      | some (k, r) =>
        match skipSpace r with
        | ':' :: r' =>
          match readValue fuel depth r' with
          | .error e => .error e
          | .ok (v, r'') =>
            let acc := Value.setEntry acc (.str k) v
            match skipSpace r'' with
            | '}' :: t => .ok (.dict acc, t)
            | ',' :: t => readMembers fuel depth (skipSpace t) acc
            | _ => .error .malformed
        | _ => .error .malformed
    | _ => .error .malformed
end

/-- Reads a whole JSON text: one value with nothing but white space around it. -/
def parse (s : String) : Except Fault Value :=
  let cs := s.toList
  match readValue (4 * (cs.length + 1)) 0 cs with
  | .ok (v, r) => if (skipSpace r).isEmpty then .ok v else .error .malformed
  | .error e => .error e

end CrudScaffold.Data.Json
