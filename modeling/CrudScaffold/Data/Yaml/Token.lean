import CrudScaffold.Text.Surrogate

/-!
# YAML tokens and the cursor that reads them

A YAML text is first cut into tokens: indicators, scalars, and the block-structure
tokens that the indentation implies (`blockMappingStart`, `blockEnd`, ...). This module
holds the token type, the character classes of YAML 1.1, and the scanner state with its
cursor primitives. The scanner works on an array of characters and keeps line and column
the way YAML counts them: a carriage return followed by a line feed is one break, and a
byte order mark takes no column.

Every loop of the scanner advances the cursor, so each one runs under `ScanM.repeatWhile`
with a budget of one step per character of the text.
-/

namespace CrudScaffold.Data.Yaml

/-- A token of a YAML character stream. -/
inductive Token where
  | streamStart
  | streamEnd
  | versionDirective (major minor : Nat)
  | tagDirective (handle pre : String)
  | reservedDirective
  | documentStart
  | documentEnd
  | blockSequenceStart
  | blockMappingStart
  | blockEnd
  | flowSequenceStart
  | flowMappingStart
  | flowSequenceEnd
  | flowMappingEnd
  | key
  | value
  | blockEntry
  | flowEntry
  | alias (name : String)
  | anchor (name : String)
  | tag (handle : Option String) (suffix : String)
  | scalar (text : String) (plain : Bool)
  deriving Repr, BEq, Inhabited

/-- The end of the text reads as this character; YAML refuses it inside a text. -/
def endMark : Char := '\x00'

/-- Line break characters of YAML 1.1. -/
def isBreak (c : Char) : Bool :=
  c == '\r' || c == '\n' || c == '\x85' || c == '\u2028' || c == '\u2029'

/-- A line break or the end of the text. -/
def isBreakOrEnd (c : Char) : Bool := c == endMark || isBreak c

/-- A space, a tab, a line break or the end of the text. -/
def isBlankOrEnd (c : Char) : Bool := c == ' ' || c == '\t' || isBreakOrEnd c

/-- A space, a line break or the end of the text (a tab is not among them). -/
def isSpaceOrEnd (c : Char) : Bool := c == ' ' || isBreakOrEnd c

/-- Characters of anchor names, directive names and tag handles: ASCII letters, digits,
`-` and `_`. -/
def isWordChar (c : Char) : Bool := c.isAlphanum || c == '-' || c == '_'

/-- Characters that a text may hold: tab, line feed, carriage return, printable ASCII,
NEL, and the printable planes above them; a carried surrogate is not among them. -/
def isPrintable (c : Char) : Bool :=
  let n := c.toNat
  n == 0x9 || n == 0xA || n == 0xD || (0x20 ≤ n && n ≤ 0x7E) || n == 0x85 ||
    (0xA0 ≤ n && n ≤ 0xD7FF) || (0xE000 ≤ n && n ≤ 0xFFFD) ||
    (0x10000 ≤ n && (Text.carriedSurrogate? c).isNone)

/-- The value of a hexadecimal digit. -/
def hexDigit? (c : Char) : Option Nat :=
  if c.isDigit then some (c.toNat - '0'.toNat)
  else if 'a' ≤ c && c ≤ 'f' then some (c.toNat - 'a'.toNat + 10)
  else if 'A' ≤ c && c ≤ 'F' then some (c.toNat - 'A'.toNat + 10)
  else none

/-- A place where a mapping key may still turn out to start: the token that would become
the key, whether the indentation demands a key there, and where it stood. -/
structure SimpleKey where
  tokenNumber : Nat
  required : Bool
  index : Nat
  line : Nat
  column : Nat

/-- The scanner: the text, the cursor, the stack of block indentations, the open flow
collections, the pending simple keys (one per flow level) and the tokens so far. -/
structure Scanner where
  input : Array Char
  index : Nat := 0
  line : Nat := 0
  column : Nat := 0
  flowLevel : Nat := 0
  indent : Int := -1
  indents : List Int := []
  allowSimpleKey : Bool := true
  simpleKeys : List (Nat × SimpleKey) := []
  tokens : Array Token := #[]
  done : Bool := false

/-- Why a text does not load as data: it is not YAML, a scalar names no value, a number
overflows, a key is missing from a table, a scalar tagged as a number is empty or one tagged
as a timestamp has no such form, or collections nest too deep. -/
inductive Fault where
  | malformed
  | badValue (message : String)
  | overflow (message : String)
  | tooDeep
  | badKey (message : String)
  | badIndex (message : String)
  | noStampFields
  deriving Repr, BEq, Inhabited

/-- What the scanner makes of a text: its tokens, how many of them no later token can change,
and the fault that stopped it, which a reader meets when it asks past those. -/
structure TokenStream where
  tokens : Array Token
  ready : Nat
  fault : Option Fault

/-- Scanning either goes on with a new state or stops with a fault. -/
abbrev ScanM := StateT Scanner (Except Fault)

/-- Stops the scan: the text is not YAML. -/
def malformed {α : Type} : ScanM α := throw .malformed

/-- The character `k` places after the cursor, or `endMark` past the end. -/
def Scanner.peekAt (s : Scanner) (k : Nat) : Char := s.input.getD (s.index + k) endMark

/-- Moves the cursor over one character, counting lines and columns. -/
def Scanner.step (s : Scanner) : Scanner :=
  let c := s.peekAt 0
  let newline := isBreak c && !(c == '\r' && s.peekAt 1 == '\n')
  { s with
    index := s.index + 1
    line := if newline then s.line + 1 else s.line
    column := if newline then 0 else if c == '\uFEFF' then s.column else s.column + 1 }

/-- How many characters from place `i` on satisfy `p`. -/
def runLength (input : Array Char) (p : Char → Bool) (i : Nat) : Nat :=
  go i 0 (input.size - i + 1)
where
  go (j acc : Nat) : Nat → Nat
    | 0 => acc
    | fuel + 1 => if p (input.getD j endMark) then go (j + 1) (acc + 1) fuel else acc

namespace ScanM

/-- The character `k` places after the cursor. -/
def peek (k : Nat) : ScanM Char := do return (← get).peekAt k

/-- Moves the cursor over `n` characters. -/
def forward (n : Nat) : ScanM Unit := modify fun s => Nat.repeat Scanner.step n s

/-- The `n` characters after the cursor, fewer at the end of the text. -/
def ahead (n : Nat) : ScanM String := do
  let s ← get
  return String.ofList (s.input.extract s.index (s.index + n)).toList

/-- Moves the cursor over the characters that satisfy `p`, and answers them. -/
def takeWhile (p : Char → Bool) : ScanM String := do
  let s ← get
  let n := runLength s.input p s.index
  let text ← ahead n
  forward n
  return text

/-- Moves the cursor over the characters that satisfy `p`. -/
def skipWhile (p : Char → Bool) : ScanM Unit := do
  let _ ← takeWhile p
  return ()

/-- One step for every character of the text, and one more. -/
def budget : ScanM Nat := do return (← get).input.size + 1

/-- Runs `step` while it answers `true`, at most `fuel` times. -/
def repeatWhile : Nat → ScanM Bool → ScanM Unit
  | 0, _ => pure ()
  | fuel + 1, step => do if (← step) then repeatWhile fuel step

/-- Reads one line break and answers it as YAML folds it: a carriage return, a line
feed, both together, or NEL give a line feed; the line and paragraph separators stay
themselves; anything else is no break and gives the empty text. -/
def lineBreak : ScanM String := do
  let c ← peek 0
  if c == '\r' || c == '\n' || c == '\x85' then
    if c == '\r' && (← peek 1) == '\n' then forward 2 else forward 1
    return "\n"
  else if c == '\u2028' || c == '\u2029' then
    forward 1
    return c.toString
  else
    return ""

/-- Whether the cursor stands at a document marker, `---` or `...` followed by a blank. -/
def atDocumentMarker : ScanM Bool := do
  let three ← ahead 3
  return (three == "---" || three == "...") && isBlankOrEnd (← peek 3)

/-- Appends a token. -/
def push (t : Token) : ScanM Unit := modify fun s => { s with tokens := s.tokens.push t }

end ScanM

end CrudScaffold.Data.Yaml
