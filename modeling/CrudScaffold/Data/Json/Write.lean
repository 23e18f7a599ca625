import CrudScaffold.Data.Value
import CrudScaffold.Data.Decimal.Shortest
import CrudScaffold.Text.Surrogate

/-!
# Writing JSON

A `Value` is written as JSON text. Strings are written in ASCII: a quote, a backslash and
the control characters are escaped, and every other character outside printable ASCII is a
`\u` escape, with a surrogate pair above U+FFFF; a carried surrogate is the escape of the
surrogate it stands for. A double is written as its shortest
decimal, which reads back as the same double; an infinity or a NaN is written as `Infinity`,
`-Infinity` or `NaN`. Keys that are not texts are written as the text of their value. A
byte string is written as the text of its bytes, one character each, and a set as an array.
-/

namespace CrudScaffold.Data.Json

/-- Four lower-case hexadecimal digits of a number below 65536. -/
def hex4 (n : Nat) : String :=
  let d := fun (k : Nat) => Nat.digitChar (n / Nat.pow 16 k % 16)
  String.ofList [d 3, d 2, d 1, d 0]

/-- The escaped form of one character inside a JSON string. -/
def escapeChar (c : Char) : String :=
  if c == '"' then "\\\""
  else if c == '\\' then "\\\\"
  else if c == '\n' then "\\n"
  else if c == '\r' then "\\r"
  else if c == '\t' then "\\t"
  else if c == '\x08' then "\\b"
  else if c == '\x0c' then "\\f"
  else if let some u := Text.carriedSurrogate? c then "\\u" ++ hex4 u
  else if c.toNat < 0x20 || c.toNat > 0x7E then
    if c.toNat < 0x10000 then "\\u" ++ hex4 c.toNat
    else
      let v := c.toNat - 0x10000
      "\\u" ++ hex4 (0xD800 + v / 0x400) ++ "\\u" ++ hex4 (0xDC00 + v % 0x400)
  else c.toString

/-- A text as a JSON string. -/
def quote (s : String) : String := "\"" ++ String.join (s.toList.map escapeChar) ++ "\""

/-- The JSON text of a calendar value, as a string. -/
def stampText (t : Stamp) : String :=
  let two := fun (n : Nat) => if n < 10 then "0" ++ toString n else toString n
  let date := toString t.year ++ "-" ++ two t.month ++ "-" ++ two t.day
  match t.time with
  | none => date
  | some (h, m, s, _) => date ++ " " ++ two h ++ ":" ++ two m ++ ":" ++ two s

/-- The JSON text of a double: its shortest decimal, or `Infinity`, `-Infinity` or `NaN`. -/
def numberText (x : Float) : String :=
  if x.isNaN then "NaN"
  else if x.isInf then (if x > 0 then "Infinity" else "-Infinity")
  else Float.shortText x

/-- The text a key is written as. -/
def keyText : Value → String
  | .str s => quote s
  | .int n => quote (toString n)
  | .bool b => quote (if b then "true" else "false")
  | .null => quote "null"
  | .float x => quote (numberText x)
  | .stamp t => quote (stampText t)
  | _ => quote ""

mutual
/-- The JSON text of a value. -/
def render : Value → String
  | .null => "null"
  | .bool b => if b then "true" else "false"
  | .int n => toString n
  | .float x => numberText x
  | .str s => quote s
  | .bytes b => quote (String.ofList (b.map fun c => Char.ofNat c.toNat))
  | .stamp t => quote (stampText t)
  | .list xs => "[" ++ renderItems xs ++ "]"
  | .set xs => "[" ++ renderItems xs ++ "]"
  | .dict es => "\x7b" ++ renderEntries es ++ "\x7d"

/-- The members of an array, separated by commas. -/
def renderItems : List Value → String
  | [] => ""
  | [x] => render x
  | x :: xs => render x ++ ", " ++ renderItems xs

/-- The members of an object, separated by commas. -/
def renderEntries : List (Value × Value) → String
  | [] => ""
  | [(k, v)] => keyText k ++ ": " ++ render v
  | (k, v) :: es => keyText k ++ ": " ++ render v ++ ", " ++ renderEntries es
end

end CrudScaffold.Data.Json
