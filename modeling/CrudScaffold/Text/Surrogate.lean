/-!
# Unpaired surrogates

A text read from JSON or YAML escapes may hold a UTF-16 surrogate code point (U+D800 to
U+DFFF) that is not half of a pair: the JSON string `"\ud800"` is such a text. A Lean
character is a Unicode scalar value and cannot be a surrogate, so a text carries each such
code point as one of 2048 private-use code points from the middle of plane 16, U+10C000 to
U+10C7FF, in the same order: surrogate `0xD800 + k` is carried as `0x10C000 + k`. These
code points are taken to occur in no input otherwise.

A carried surrogate is no letter, digit, space or printable character and has no case, as
the code points of the private-use plane; writers turn it back into the surrogate it stands
for, and a text that holds one is no valid UTF-8.
-/

namespace CrudScaffold.Text

/-- The first code point of those that carry surrogates. -/
def carrierBase : Nat := 0x10C000

/-- Whether a code point is a surrogate. -/
def isSurrogate (n : Nat) : Bool := 0xD800 ≤ n && n < 0xE000

/-- The character that carries the surrogate `n`; other code points give their own
character. -/
def charOfCode (n : Nat) : Char :=
  if isSurrogate n then Char.ofNat (carrierBase + (n - 0xD800)) else Char.ofNat n

/-- The surrogate a character carries, if it carries one. -/
def carriedSurrogate? (c : Char) : Option Nat :=
  if carrierBase ≤ c.toNat && c.toNat < carrierBase + 0x800 then
    some (c.toNat - carrierBase + 0xD800)
  else none

/-- The code point a character stands for: the surrogate it carries, or its own. -/
def codeOf (c : Char) : Nat := (carriedSurrogate? c).getD c.toNat

/-- Whether a text carries a surrogate. -/
def hasSurrogate (s : String) : Bool := s.toList.any fun c => (carriedSurrogate? c).isSome

/-- A text as it reads once written in UTF-8, surrogates let through, and read back with
each invalid byte replaced: a carried surrogate, three bytes that are not UTF-8, becomes three
replacement characters U+FFFD. -/
def utf8Lossy (s : String) : String :=
  String.ofList (s.toList.flatMap fun c =>
    if (carriedSurrogate? c).isSome then ['\uFFFD', '\uFFFD', '\uFFFD'] else [c])

end CrudScaffold.Text
