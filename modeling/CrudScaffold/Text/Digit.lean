import CrudScaffold.Text.Blank

/-!
# Decimal digits of every script

Unicode groups the decimal digits (category Nd) of each script in runs of ten code points,
from zero to nine. `decimalZeros` lists the zero of every run, so a character is a digit of
value `d` exactly when it stands `d` places after one of them.

`asciiNumeral` is the form in which a numeral of any script is read: ASCII characters stay,
other white space becomes a space, other digits become the ASCII digit of their value, and the
first other character ends the form with a `?`, which no numeral holds.
-/

namespace CrudScaffold.Text

/-- The zero of each run of ten decimal digits, in increasing order. -/
def decimalZeros : Array Nat := #[
  0x30, 0x660, 0x6F0, 0x7C0, 0x966, 0x9E6, 0xA66, 0xAE6, 0xB66, 0xBE6,
  0xC66, 0xCE6, 0xD66, 0xDE6, 0xE50, 0xED0, 0xF20, 0x1040, 0x1090, 0x17E0,
  0x1810, 0x1946, 0x19D0, 0x1A80, 0x1A90, 0x1B50, 0x1BB0, 0x1C40, 0x1C50, 0xA620,
  0xA8D0, 0xA900, 0xA9D0, 0xA9F0, 0xAA50, 0xABF0, 0xFF10, 0x104A0, 0x10D30, 0x11066,
  0x110F0, 0x11136, 0x111D0, 0x112F0, 0x11450, 0x114D0, 0x11650, 0x116C0, 0x11730, 0x118E0,
  0x11950, 0x11C50, 0x11D50, 0x11DA0, 0x16A60, 0x16AC0, 0x16B50, 0x1D7CE, 0x1D7D8, 0x1D7E2,
  0x1D7EC, 0x1D7F6, 0x1E140, 0x1E2F0, 0x1E950, 0x1FBF0]

/-- The value of a decimal digit of any script. -/
def decimalValue? (c : Char) : Option Nat :=
  decimalZeros.findSome? fun z => if z ≤ c.toNat && c.toNat < z + 10 then some (c.toNat - z) else none

/-- The ASCII form of a numeral (see the module doc). -/
def asciiNumeral : List Char → List Char
  | [] => []
  | c :: rest =>
    if c.toNat < 127 then c :: asciiNumeral rest
    else if isBlank c then ' ' :: asciiNumeral rest
    else match decimalValue? c with
      | some d => Char.ofNat (48 + d) :: asciiNumeral rest
      | none => ['?']

/-- Whether a character is white space of ASCII: space, tab, line feed, vertical tab, form
feed or carriage return. -/
def isAsciiSpace (c : Char) : Bool := c == ' ' || ('\t' ≤ c && c ≤ '\r')

theorem asciiNumeral_ascii (cs : List Char) (h : ∀ c ∈ cs, c.toNat < 127) :
    asciiNumeral cs = cs := by
  induction cs with
  | nil => rfl
  | cons c rest ih =>
    simp only [List.mem_cons, forall_eq_or_imp] at h
    simp [asciiNumeral, h.1, ih h.2]

end CrudScaffold.Text
