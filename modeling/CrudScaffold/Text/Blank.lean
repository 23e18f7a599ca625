/-!
# Blank characters

Two character classes of Unicode. `isWhiteSpace` is the property White_Space; `isBlank` adds
the four information separators U+001C to U+001F, and is the class that trimming a name or a
line uses. `trim` drops blank characters from both ends.
-/

namespace CrudScaffold.Text

/-- The Unicode property White_Space. -/
def isWhiteSpace (c : Char) : Bool :=
  let n := c.toNat
  (0x9 ≤ n && n ≤ 0xD) || n == 0x20 || n == 0x85 || n == 0xA0 || n == 0x1680 ||
    (0x2000 ≤ n && n ≤ 0x200A) || n == 0x2028 || n == 0x2029 || n == 0x202F ||
    n == 0x205F || n == 0x3000

/-- White space together with the information separators U+001C to U+001F. -/
def isBlank (c : Char) : Bool :=
  isWhiteSpace c || (0x1C ≤ c.toNat && c.toNat ≤ 0x1F)

/-- Drops the characters satisfying `p` from both ends of a list. -/
def trimBy (p : Char → Bool) (cs : List Char) : List Char :=
  ((cs.dropWhile p).reverse.dropWhile p).reverse

/-- A text without its blank characters at either end. -/
def trim (s : String) : String := String.ofList (trimBy isBlank s.toList)

theorem isBlank_of_isWhiteSpace {c : Char} (h : isWhiteSpace c = true) : isBlank c = true := by
  simp [isBlank, h]

end CrudScaffold.Text
