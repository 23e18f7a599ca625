import CrudScaffold.Data.Yaml.Token
import CrudScaffold.Data.Value
import CrudScaffold.Data.Numeral
import CrudScaffold.Text.Quoted
import CrudScaffold.Text.Case

/-!
# Types and values of YAML scalars

A plain scalar without a tag takes its type from its text, by the patterns of the YAML 1.1
types: `null` (`~`, `null`, the empty text), `bool` (`yes`, `no`, `true`, `false`, `on`,
`off`, each in three spellings), `int` (decimal, `0b` binary, `0` octal, `0x` hexadecimal,
base 60 with colons, underscores allowed), `float` (a point is required; an exponent needs
its sign; `.inf`, `.nan`, base 60), `timestamp` (a date, or a date and a time), and `merge`
(`<<`). Every other scalar is a text. A scalar tagged `binary` holds base64 text and stands
for the bytes it encodes.

`scalarValue` then builds the value of a scalar of a given type. A date off the calendar,
or an integer pattern with no digits (`0b_`), names no value and is a bad value; a tag
that the schema does not know makes the text unusable.
-/

namespace CrudScaffold.Data.Yaml

open CrudScaffold.Data

/-- The full name of a tag of the YAML schema. -/
def schemaTag (name : String) : String := "tag:yaml.org,2002:" ++ name

/-- Drops one leading sign. -/
def dropSign : List Char → List Char
  | '-' :: r => r
  | '+' :: r => r
  | r => r

/-- A digit or an underscore. -/
def isDigitMark (c : Char) : Bool := c.isDigit || c == '_'

/-- Whether a text is an exponent with a sign: `e` or `E`, `+` or `-`, digits. -/
def isSignedExponent : List Char → Bool
  | e :: s :: ds => (e == 'e' || e == 'E') && (s == '-' || s == '+') && !ds.isEmpty &&
      ds.all Char.isDigit
  | _ => false

/-- Reads one base-60 group, a colon and a number below 60 written with one or two digits,
and answers what follows it. -/
def dropSexagesimalGroup : List Char → Option (List Char)
  | ':' :: a :: b :: rest =>
    if a.isDigit && b.isDigit then (if a ≤ '5' then some rest else none)
    else if a.isDigit then some (b :: rest) else none
  | [':', a] => if a.isDigit then some [] else none
  | _ => none

/-- Reads one or more base-60 groups and answers what follows them. -/
def dropSexagesimalGroups (cs : List Char) : Option (List Char) :=
  (dropSexagesimalGroup cs).map (go cs.length)
where
  go : Nat → List Char → List Char
    | 0, r => r
    | fuel + 1, r => match dropSexagesimalGroup r with
      | some r' => go fuel r'
      | none => r

/-- Whether a text has the form of a YAML 1.1 float. -/
def isFloatText (cs : List Char) : Bool :=
  let fracThenExp (f : List Char) :=
    let g := f.dropWhile isDigitMark
    g.isEmpty || isSignedExponent g
  let pointed := match dropSign cs with
    | d :: r => d.isDigit && (match r.dropWhile isDigitMark with
      | '.' :: f => fracThenExp f
      | _ => false)
    | [] => false
  let leadingPoint := match cs with
    | '.' :: d :: r => d.isDigit && fracThenExp r
    | _ => false
  let sexagesimal := match dropSign cs with
    | d :: r => d.isDigit && (match dropSexagesimalGroups (r.dropWhile isDigitMark) with
      | some ('.' :: f) => f.all isDigitMark
      | _ => false)
    | [] => false
  let infinity := [".inf", ".Inf", ".INF"].contains (String.ofList (dropSign cs))
  let nan := [".nan", ".NaN", ".NAN"].contains (String.ofList cs)
  pointed || leadingPoint || sexagesimal || infinity || nan

/-- Whether a text has the form of a YAML 1.1 integer. -/
def isIntText (cs : List Char) : Bool :=
  let isOctal (c : Char) := ('0' ≤ c && c ≤ '7') || c == '_'
  let isHex (c : Char) := c.isDigit || ('a' ≤ c && c ≤ 'f') || ('A' ≤ c && c ≤ 'F') || c == '_'
  match dropSign cs with
  | ['0'] => true
  | '0' :: 'b' :: r => !r.isEmpty && r.all (fun c => c == '0' || c == '1' || c == '_')
  | '0' :: 'x' :: r => !r.isEmpty && r.all isHex
  | '0' :: r => !r.isEmpty && r.all isOctal
  | d :: r =>
    '1' ≤ d && d ≤ '9' &&
      (r.all isDigitMark || dropSexagesimalGroups (r.dropWhile isDigitMark) == some [])
  | [] => false

/-- Reads a run of one or two digits and answers what follows. -/
def dropDigits12 (cs : List Char) : Option (List Char) :=
  let n := (cs.takeWhile Char.isDigit).length
  if n == 1 || n == 2 then some (cs.drop n) else none

/-- Reads exactly `n` digits and answers what follows. -/
def dropDigitsExactly (n : Nat) (cs : List Char) : Option (List Char) :=
  if (cs.take n).length == n && (cs.take n).all Char.isDigit then some (cs.drop n) else none

/-- Reads the character `c` and answers what follows. -/
def dropChar (c : Char) : List Char → Option (List Char)
  | d :: r => if d == c then some r else none
  | [] => none

/-- Whether a text is a time zone suffix: blanks, then `Z` or a signed hour with optional
minutes. -/
def isZoneSuffix (cs : List Char) : Bool :=
  match cs.dropWhile (fun c => c == ' ' || c == '\t') with
  | ['Z'] => true
  | s :: r => (s == '-' || s == '+') && (match dropDigits12 r with
    | some [] => true
    | some rest => (dropChar ':' rest >>= dropDigitsExactly 2) == some []
    | none => false)
  | [] => false

/-- Whether a text has the form of a YAML 1.1 timestamp: `YYYY-MM-DD`, or a date with
one- or two-digit month and day followed by `T`, `t` or blanks and a time, with an optional
fraction and time zone. A text with an explicit timestamp tag is read by the looser form in
which a date alone may also have one-digit month and day (`looseDate`). -/
def timestampForm (looseDate : Bool) (cs : List Char) : Bool :=
  let date := (do
    let r ← dropDigitsExactly 4 cs
    let r ← dropChar '-' r
    let r ← dropDigitsExactly 2 r
    let r ← dropChar '-' r
    dropDigitsExactly 2 r) == some []
  match (do
      let r ← dropDigitsExactly 4 cs
      let r ← dropChar '-' r
      let r ← dropDigits12 r
      let r ← dropChar '-' r
      dropDigits12 r) with
  | some [] => date || looseDate
  | some rest =>
    let afterSep := match rest with
      | 'T' :: r => some r
      | 't' :: r => some r
      | r => if r.head?.any (fun c => c == ' ' || c == '\t')
          then some (r.dropWhile (fun c => c == ' ' || c == '\t')) else none
    match (do
        let r ← afterSep
        let r ← dropDigits12 r
        let r ← dropChar ':' r
        let r ← dropDigitsExactly 2 r
        let r ← dropChar ':' r
        dropDigitsExactly 2 r) with
    | some r =>
      let r := match r with
        | '.' :: f => f.dropWhile Char.isDigit
        | r => r
      r.isEmpty || isZoneSuffix r
    | none => false
  | none => false

/-- Whether a plain text reads as a timestamp without a tag. -/
def isTimestampText (cs : List Char) : Bool := timestampForm false cs

/-- The words that the implicit `bool` type knows. -/
def boolWords : List String :=
  ["yes", "Yes", "YES", "no", "No", "NO", "true", "True", "TRUE", "false", "False", "FALSE",
    "on", "On", "ON", "off", "Off", "OFF"]

/-- The type of a plain scalar without a tag, read off its text. The patterns are tried
by the text's first character in the order bool, float, int, merge, null, timestamp. A
pattern also matches its text followed by one line feed. -/
def implicitTag (text : String) : String :=
  let cs := text.toList
  let trimmed := if cs.getLast? == some '\n' then cs.dropLast else cs
  let holds (p : List Char → Bool) := p cs || (cs.getLast? == some '\n' && p trimmed)
  let first := cs.head?.getD ' '
  let isBool := holds fun t => boolWords.contains (String.ofList t)
  let isNull := holds fun t => t.isEmpty || t == ['~'] || ["null", "Null", "NULL"].contains (String.ofList t)
  if cs.isEmpty then schemaTag "null"
  else if "yYnNtTfFoO".contains first && isBool then schemaTag "bool"
  else if "-+0123456789.".contains first && holds isFloatText then schemaTag "float"
  else if "-+0123456789".contains first && holds isIntText then schemaTag "int"
  else if first == '<' && holds (· == ['<', '<']) then schemaTag "merge"
  else if "~nN".contains first && isNull then schemaTag "null"
  else if first.isDigit && holds isTimestampText then schemaTag "timestamp"
  else if first == '=' && holds (· == ['=']) then schemaTag "value"
  else schemaTag "str"

/-- The value of a text of digits in base `b` (2, 8, 10 or 16) as an integer literal reads
it; a bad value names the text, quoted and cut to 200 characters. -/
def integerInBase (b : Nat) (text : String) : Except Fault Int :=
  match intOfNumeral b text with
  | .ok n => .ok n
  | .error .invalid =>
    .error (.badValue s!"invalid literal for int() with base {b}: {Text.quotedUpTo 200 text}")
  | .error (.tooManyDigits n) => .error (.badValue (tooManyDigitsMessage n))

/-- The value of an integer scalar: underscores are dropped, then a sign, `0b`, `0x`, a
leading `0` for octal, or colons for base 60 decide how the digits read. -/
def intValue (text : String) : Except Fault Int := do
  let cs := text.toList.filter (· != '_')
  let first ← match cs.head? with
    | some c => pure c
    | none => throw (.badIndex "string index out of range")
  let sign : Int := if first == '-' then -1 else 1
  let cs := if first == '-' || first == '+' then cs.drop 1 else cs
  match cs with
  | ['0'] => return 0
  | '0' :: 'b' :: r => return sign * (← integerInBase 2 (String.ofList r))
  | '0' :: 'x' :: r => return sign * (← integerInBase 16 (String.ofList r))
  | '0' :: _ => return sign * (← integerInBase 8 (String.ofList cs))
  | [] => throw (.badIndex "string index out of range")
  | _ =>
    if cs.contains ':' then
      let parts ← (String.ofList cs).splitOn ":" |>.mapM (integerInBase 10)
      return sign * parts.foldl (fun acc d => 60 * acc + d) 0
    else return sign * (← integerInBase 10 (String.ofList cs))

/-- The double of a text as a number literal reads it; a bad value names the text. -/
def floatOfText (text : String) : Except Fault Float :=
  match floatOfNumeral text with
  | some x => .ok x
  | none => .error (.badValue s!"could not convert string to float: {Text.quoted text}")

/-- The text of a float scalar with its underscores dropped and in lower case, split into
whether it starts with `-` and what follows a leading sign; none for an empty text. -/
def floatParts (text : String) : Option (Bool × List Char) :=
  match (Text.lower (String.ofList (text.toList.filter (· != '_')))).toList with
  | [] => none
  | first :: rest => some (first == '-', if first == '-' || first == '+' then rest else first :: rest)

/-- Whether a float scalar is the word `.nan`, in any case and with any sign. Every such
scalar stands for one and the same NaN, so that as keys they are one key, while a NaN made
any other way is a value of its own. -/
def isSharedNaN (text : String) : Bool :=
  match floatParts text with
  | some (_, body) => body == ".nan".toList
  | none => false

/-- The value of a float scalar: underscores are dropped and case is ignored, then
`.inf`, `.nan`, colons for base 60, or a decimal decide the number. In base 60 the place
values are whole numbers, each rounded to a double when it is used; one past the largest
double is too large. -/
def floatValue (text : String) : Except Fault Float := do
  let some (negative, cs) := floatParts text | throw (.badIndex "string index out of range")
  let signed (x : Float) : Float := if negative then -1.0 * x else x
  let body := String.ofList cs
  if body == ".inf" then return signed (1.0 / 0.0)
  if body == ".nan" then return 0.0 / 0.0
  if cs.contains ':' then
    let parts ← (body.splitOn ":").mapM floatOfText
    let place (acc : Float × Nat) (d : Float) : Except Fault (Float × Nat) := do
      let some b := natToFloat? acc.2 | throw (.overflow "int too large to convert to float")
      return (acc.1 + d * b, acc.2 * 60)
    let (total, _) ← parts.reverse.foldlM place (0.0, 1)
    return signed total
  return signed (← floatOfText body)

/-- The days of a month of a year of the Gregorian calendar. -/
def daysInMonth (year month : Nat) : Nat :=
  if month == 2 then
    if year % 4 == 0 && (year % 100 != 0 || year % 400 == 0) then 29 else 28
  else if month == 4 || month == 6 || month == 9 || month == 11 then 30
  else 31

/-- The text of a time difference of `minutes` minutes as it is printed: whole days (rounded
down) and the seconds left, each only when not zero. -/
def differenceText (minutes : Int) : String :=
  let total := 60 * minutes
  let days := total / 86400
  let seconds := total % 86400
  let fields := (if days != 0 then [s!"days={days}"] else []) ++
    (if seconds != 0 then [s!"seconds={seconds}"] else [])
  "datetime.timedelta(" ++ (if fields.isEmpty then "0" else ", ".intercalate fields) ++ ")"

/-- The value of a timestamp scalar: a date, or a date and time with its microseconds and
time zone offset in minutes. A field out of its range is a bad value; the offset is checked
first, as the time zone is made before the date and time, whose fields are checked in order. -/
def timestampValue (text : String) : Except Fault Stamp := do
  let cs := text.toList
  let number (ds : List Char) : Nat := digitsValue ds
  let year := number (cs.take 4)
  let r := cs.drop 5
  let monthDigits := r.takeWhile Char.isDigit
  let r := r.drop (monthDigits.length + 1)
  let dayDigits := r.takeWhile Char.isDigit
  let rest := r.drop dayDigits.length
  let month := number monthDigits
  let day := number dayDigits
  let checkDate : Except Fault Unit := do
    if year < 1 || year > 9999 then throw (.badValue s!"year {year} is out of range")
    if month < 1 || month > 12 then throw (.badValue "month must be in 1..12")
    if day < 1 || day > daysInMonth year month then
      throw (.badValue "day is out of range for month")
  if rest.isEmpty then
    checkDate
    return { year, month, day }
  let rest := match rest with
    | 'T' :: r => r
    | 't' :: r => r
    | r => r.dropWhile (fun c => c == ' ' || c == '\t')
  let hourDigits := rest.takeWhile Char.isDigit
  let rest := rest.drop (hourDigits.length + 1)
  let minute := number (rest.take 2)
  let second := number ((rest.drop 3).take 2)
  let rest := rest.drop 5
  let (fraction, rest) := match rest with
    | '.' :: r => (r.takeWhile Char.isDigit, r.dropWhile Char.isDigit)
    | r => ([], r)
  let micro := number ((fraction.take 6) ++ List.replicate (6 - min 6 fraction.length) '0')
  let rest := rest.dropWhile (fun c => c == ' ' || c == '\t')
  let offset : Option Int := match rest with
    | 'Z' :: _ => some 0
    | s :: r =>
      let h := number (r.takeWhile Char.isDigit)
      let m := number ((r.dropWhile Char.isDigit).drop 1)
      let total : Int := 60 * h + m
      some (if s == '-' then -total else total)
    | [] => none
  if let some o := offset then
    if o.natAbs ≥ 1440 then
      throw (.badValue ("offset must be a timedelta strictly between -timedelta(hours=24) " ++
        "and timedelta(hours=24), not " ++ differenceText o ++ "."))
  checkDate
  let hour := number hourDigits
  if hour > 23 then throw (.badValue "hour must be in 0..23")
  if minute > 59 then throw (.badValue "minute must be in 0..59")
  if second > 59 then throw (.badValue "second must be in 0..59")
  return { year, month, day, time := some (hour, minute, second, micro), offset }

/-- The value of a base64 digit. -/
def base64Digit? (c : Char) : Option Nat :=
  if 'A' ≤ c && c ≤ 'Z' then some (c.toNat - 65)
  else if 'a' ≤ c && c ≤ 'z' then some (c.toNat - 71)
  else if '0' ≤ c && c ≤ '9' then some (c.toNat + 4)
  else if c == '+' then some 62
  else if c == '/' then some 63
  else none

/-- Decodes base64 characters: `quad` digits of the group are read, `left` holds bits not yet
written, and `pads` counts padding since the last digit. Other characters are skipped; padding
that completes a group of at least two digits ends the data, which may not end inside a group. -/
def base64Bytes? : List Char → Nat → Nat → Nat → List UInt8 → Option (List UInt8)
  | [], quad, _, _, acc => if quad == 0 then some acc.reverse else none
  | c :: rest, quad, left, pads, acc =>
    if c == '=' then
      if quad ≥ 2 && quad + pads + 1 ≥ 4 then some acc.reverse
      else base64Bytes? rest quad left (if quad ≥ 2 then pads + 1 else pads) acc
    else match base64Digit? c with
      | none => base64Bytes? rest quad left pads acc
      | some v =>
        match quad with
        | 0 => base64Bytes? rest 1 v 0 acc
        | 1 => base64Bytes? rest 2 (v % 16) 0 (UInt8.ofNat (left * 4 + v / 16) :: acc)
        | 2 => base64Bytes? rest 3 (v % 4) 0 (UInt8.ofNat (left * 16 + v / 4) :: acc)
        | _ => base64Bytes? rest 0 0 0 (UInt8.ofNat (left * 64 + v) :: acc)

/-- The bytes of a binary scalar: its text must be ASCII and base64. -/
def binaryValue (text : String) : Except Fault (List UInt8) :=
  if text.toList.all (·.toNat < 128) then
    match base64Bytes? text.toList 0 0 0 [] with
    | some b => .ok b
    | none => .error .malformed
  else .error .malformed

/-- The value of a scalar of the given tag. Booleans are looked up by their lowercase
word, so a `!!bool` tag on another word is a missing key; a tag outside the schema's
scalar types makes the text unusable. -/
def scalarValue (tag text : String) : Except Fault Value := do
  if tag == schemaTag "null" then return .null
  else if tag == schemaTag "bool" then
    let word := Text.lower text
    if word == "yes" || word == "true" || word == "on" then return .bool true
    else if word == "no" || word == "false" || word == "off" then return .bool false
    else throw (.badKey (Text.quoted word))
  else if tag == schemaTag "int" then return .int (← intValue text)
  else if tag == schemaTag "float" then return .float (← floatValue text)
  else if tag == schemaTag "str" then return .str text
  else if tag == schemaTag "binary" then return .bytes (← binaryValue text)
  else if tag == schemaTag "timestamp" then
    let cs := text.toList
    let body := if cs.getLast? == some '\n' then cs.dropLast else cs
    if timestampForm true body then return .stamp (← timestampValue (String.ofList body))
    else throw .noStampFields
  else throw .malformed

end CrudScaffold.Data.Yaml
