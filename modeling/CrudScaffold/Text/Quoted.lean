import CrudScaffold.Text.Printable
import CrudScaffold.Text.Surrogate

/-!
# Quoted texts

A text as error messages quote it: between single quotes, or between double quotes when it
holds a single quote and no double quote. The quote in use and the backslash are escaped by
a backslash; tab, line feed and carriage return by their letters; a control character and
any other character that is not printable by its code in hexadecimal, `\xhh` below U+0100,
`\uhhhh` below U+10000 and `\Uhhhhhhhh` above. A carried surrogate is written as the
surrogate it stands for.
-/

namespace CrudScaffold.Text

/-- The lower-case hexadecimal digits of `n`, padded with zeros to `width` digits. -/
def hexDigits (width n : Nat) : String :=
  let ds := Nat.toDigits 16 n
  String.ofList (List.replicate (width - ds.length) '0' ++ ds)

/-- How one character of a text quoted by `q` is written. -/
def quoteChar (q c : Char) : String :=
  match carriedSurrogate? c with
  | some u => "\\u" ++ hexDigits 4 u
  | none =>
    let n := c.toNat
    if c == q || c == '\\' then "\\" ++ c.toString
    else if c == '\t' then "\\t"
    else if c == '\n' then "\\n"
    else if c == '\r' then "\\r"
    else if n < 0x20 || n == 0x7F then "\\x" ++ hexDigits 2 n
    else if n < 0x7F || isPrintable c then c.toString
    else if n < 0x100 then "\\x" ++ hexDigits 2 n
    else if n < 0x10000 then "\\u" ++ hexDigits 4 n
    else "\\U" ++ hexDigits 8 n

/-- A text between quotes, with the characters escaped that need it. -/
def quoted (s : String) : String :=
  let q := if s.contains '\x27' && !s.contains '"' then '"' else '\x27'
  q.toString ++ String.join (s.toList.map (quoteChar q)) ++ q.toString

/-- The first `n` characters of the quoted text. -/
def quotedUpTo (n : Nat) (s : String) : String := String.ofList ((quoted s).toList.take n)

theorem hexDigits_length (w n : Nat) (h : (Nat.toDigits 16 n).length ≤ w) :
    (hexDigits w n).length = w := by
  simp [hexDigits]
  omega

end CrudScaffold.Text
