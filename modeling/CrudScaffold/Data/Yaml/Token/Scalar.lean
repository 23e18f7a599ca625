import CrudScaffold.Data.Yaml.Token

/-!
# Reading scalars, node properties and directives

The pieces of a YAML text that are more than one character long: quoted scalars with
their escapes and line folding, block scalars (`|` and `>`) with chomping and indentation
indicators, plain scalars, anchors and aliases, tags, and the `%YAML` and `%TAG`
directives. Each reader starts with the cursor on the first character of its piece and
leaves it after the last one.

Line folding is the same in all three scalar styles: a single line break between two
pieces of text becomes a space, and each further empty line stays a line feed. Tabs may
separate words of a quoted scalar, but a plain scalar ends at a tab.
-/

namespace CrudScaffold.Data.Yaml

open ScanM

/-! ## Names, tags and directives -/

/-- Reads the name after `&` or `*`: ASCII letters, digits, `-` and `_`, at least one,
followed by a blank or by one of `?:,]}%@` and the backquote. -/
def scanAnchorName : ScanM String := do
  forward 1
  let name ← takeWhile isWordChar
  if name.isEmpty then malformed
  let c ← peek 0
  unless isBlankOrEnd c || c == '?' || c == ':' || c == ',' || c == ']' || c == '}' ||
      c == '%' || c == '@' || c == '\x60' do
    malformed
  return name

/-- Reads a tag handle: `!`, `!!`, or `!name!`. -/
def scanTagHandle : ScanM String := do
  if (← peek 0) != '!' then malformed
  if (← peek 1) == ' ' then
    forward 1
    return "!"
  let s ← get
  let n := runLength s.input isWordChar (s.index + 1)
  if s.peekAt (n + 1) != '!' then malformed
  readCount (n + 2)
where
  -- Reads the next `k` characters.
  readCount (k : Nat) : ScanM String := do
    let text ← ahead k
    forward k
    return text

/-- Characters that a tag may hold besides `%` escapes. -/
def isUriChar (c : Char) : Bool :=
  c.isAlphanum || c == '-' || c == ';' || c == '/' || c == '?' || c == ':' || c == '@' ||
    c == '&' || c == '=' || c == '+' || c == '$' || c == ',' || c == '_' || c == '.' ||
    c == '!' || c == '~' || c == '*' || c == '\x27' || c == '(' || c == ')' || c == '[' ||
    c == ']'

/-- Reads a run of `%XX` escapes; together their bytes must be UTF-8. -/
def scanUriEscapes : ScanM String := do
  let bytes ← go #[] (← budget)
  match String.fromUTF8? (ByteArray.mk bytes) with
  | some text => return text
  | none => malformed
where
  go (acc : Array UInt8) : Nat → ScanM (Array UInt8)
    | 0 => return acc
    | fuel + 1 => do
      if (← peek 0) != '%' then return acc
      match hexDigit? (← peek 1), hexDigit? (← peek 2) with
      | some hi, some lo =>
        forward 3
        go (acc.push (hi * 16 + lo).toUInt8) fuel
      | _, _ => malformed

/-- Reads the characters of a tag or tag prefix; there must be at least one. -/
def scanTagUri : ScanM String := do
  let text ← go "" (← budget)
  if text.isEmpty then malformed
  return text
where
  go (acc : String) : Nat → ScanM String
    | 0 => return acc
    | fuel + 1 => do
      let c ← peek 0
      if c == '%' then go (acc ++ (← scanUriEscapes)) fuel
      else if isUriChar c then
        forward 1
        go (acc.push c) fuel
      else return acc

/-- Reads a tag: `!<verbatim>`, a lone `!`, `!suffix`, or `handle!suffix`. It must be
followed by a space or a line break. -/
def scanTag : ScanM Token := do
  let c1 ← peek 1
  let tok ←
    if c1 == '<' then do
      forward 2
      let suffix ← scanTagUri
      if (← peek 0) != '>' then malformed
      forward 1
      pure (Token.tag none suffix)
    else if isBlankOrEnd c1 then do
      forward 1
      pure (Token.tag none "!")
    else do
      let s ← get
      let n := runLength s.input (fun c => !isSpaceOrEnd c && c != '!') (s.index + 1)
      let handle ←
        if s.peekAt (n + 1) == '!' then scanTagHandle
        else do
          forward 1
          pure "!"
      let suffix ← scanTagUri
      pure (Token.tag (some handle) suffix)
  if !isSpaceOrEnd (← peek 0) then malformed
  return tok

/-- Reads the decimal number of a `%YAML` directive. -/
def scanVersionNumber : ScanM Nat := do
  let digits ← takeWhile Char.isDigit
  if digits.isEmpty then malformed
  return digits.foldl (fun n c => 10 * n + (c.toNat - '0'.toNat)) 0

/-- Reads a directive line, from `%` to the line break that ends it. -/
def scanDirective : ScanM Token := do
  forward 1
  let name ← takeWhile isWordChar
  if name.isEmpty then malformed
  if !isSpaceOrEnd (← peek 0) then malformed
  let tok ←
    if name == "YAML" then do
      skipWhile (· == ' ')
      let major ← scanVersionNumber
      if (← peek 0) != '.' then malformed
      forward 1
      let minor ← scanVersionNumber
      if !isSpaceOrEnd (← peek 0) then malformed
      pure (Token.versionDirective major minor)
    else if name == "TAG" then do
      skipWhile (· == ' ')
      let handle ← scanTagHandle
      if (← peek 0) != ' ' then malformed
      skipWhile (· == ' ')
      let pre ← scanTagUri
      if !isSpaceOrEnd (← peek 0) then malformed
      pure (Token.tagDirective handle pre)
    else do
      skipWhile (fun c => !isBreakOrEnd c)
      pure Token.reservedDirective
  skipWhile (· == ' ')
  if (← peek 0) == '#' then skipWhile (fun c => !isBreakOrEnd c)
  if !isBreakOrEnd (← peek 0) then malformed
  let _ ← lineBreak
  return tok

/-! ## Quoted scalars -/

/-- The character that a one-letter escape of a double-quoted scalar stands for. -/
def escapeChar? : Char → Option Char
  | '0' => some '\x00'
  | 'a' => some '\x07'
  | 'b' => some '\x08'
  | 't' => some '\t'
  | '\t' => some '\t'
  | 'n' => some '\n'
  | 'v' => some '\x0b'
  | 'f' => some '\x0c'
  | 'r' => some '\r'
  | 'e' => some '\x1b'
  | ' ' => some ' '
  | '"' => some '"'
  | '\\' => some '\\'
  | '/' => some '/'
  | 'N' => some '\x85'
  | '_' => some '\xa0'
  | 'L' => some '\u2028'
  | 'P' => some '\u2029'
  | _ => none

/-- How many hexadecimal digits follow `x`, `u` and `U` in a double-quoted scalar. -/
def escapeWidth? : Char → Option Nat
  | 'x' => some 2
  | 'u' => some 4
  | 'U' => some 8
  | _ => none

/-- Reads the line breaks inside a quoted scalar and the indentation after each; a document
marker at the start of a line is refused. -/
def scanQuotedBreaks : ScanM String := do go "" (← budget)
where
  go (acc : String) : Nat → ScanM String
    | 0 => return acc
    | fuel + 1 => do
      if ← atDocumentMarker then malformed
      skipWhile (fun c => c == ' ' || c == '\t')
      if isBreak (← peek 0) then go (acc ++ (← lineBreak)) fuel
      else return acc

/-- The character of code point `n` of an escape. A number past the largest signed 32-bit
word is too large to be a code point at all, one past U+10FFFF is a bad value, and a
surrogate half is carried. -/
def escapedChar (n : Nat) : ScanM Char := do
  if n > 0x7FFFFFFF then throw (.overflow "Python int too large to convert to C int")
  if n > 0x10FFFF then throw (.badValue "chr() arg not in range(0x110000)")
  return Text.charOfCode n

/-- Reads text of a quoted scalar up to the next space, line break or closing quote,
resolving escapes. -/
def scanQuotedText (double : Bool) : ScanM String := do go "" (← budget)
where
  go (acc : String) : Nat → ScanM String
    | 0 => return acc
    | fuel + 1 => do
      let text ← takeWhile fun c =>
        !(c == '\x27' || c == '"' || c == '\\' || isBlankOrEnd c)
      let acc := acc ++ text
      let c ← peek 0
      if !double && c == '\x27' && (← peek 1) == '\x27' then
        forward 2
        go (acc.push '\x27') fuel
      else if (double && c == '\x27') || (!double && (c == '"' || c == '\\')) then
        forward 1
        go (acc.push c) fuel
      else if double && c == '\\' then
        forward 1
        let e ← peek 0
        match escapeChar? e, escapeWidth? e with
        | some r, _ =>
          forward 1
          go (acc.push r) fuel
        | none, some width =>
          forward 1
          let digits ← ahead width
          let values := digits.toList.filterMap hexDigit?
          if digits.length != width || values.length != width then malformed
          let ch ← escapedChar (values.foldl (fun n d => 16 * n + d) 0)
          forward width
          go (acc.push ch) fuel
        | none, none =>
          if isBreak e then
            let _ ← lineBreak
            go (acc ++ (← scanQuotedBreaks)) fuel
          else malformed
      else return acc

/-- Reads the blanks between two pieces of a quoted scalar and folds them. The text must
not end inside a quoted scalar. -/
def scanQuotedSpaces : ScanM String := do
  let blanks ← takeWhile fun c => c == ' ' || c == '\t'
  let c ← peek 0
  if c == endMark then malformed
  if isBreak c then
    let lb ← lineBreak
    let breaks ← scanQuotedBreaks
    let joint := if lb != "\n" then lb else if breaks.isEmpty then " " else ""
    return joint ++ breaks
  return blanks

/-- Reads a single- or double-quoted scalar, quotes included. -/
def scanQuoted (double : Bool) : ScanM Token := do
  let quote ← peek 0
  forward 1
  let first ← scanQuotedText double
  let text ← go quote first (← budget)
  forward 1
  return .scalar text false
where
  go (quote : Char) (acc : String) : Nat → ScanM String
    | 0 => return acc
    | fuel + 1 => do
      if (← peek 0) == quote then return acc
      let spaces ← scanQuotedSpaces
      let text ← scanQuotedText double
      go quote (acc ++ spaces ++ text) fuel

/-! ## Block scalars -/

/-- Reads the indicators after `|` or `>`: chomping (`+` keeps trailing line breaks, `-`
strips them) and an explicit indentation from 1 to 9, in either order. -/
def scanBlockIndicators : ScanM (Option Bool × Option Nat) := do
  let c ← peek 0
  let r ←
    if c == '+' || c == '-' then do
      forward 1
      let d ← peek 0
      if d.isDigit then
        if d == '0' then malformed
        forward 1
        pure (some (c == '+'), some (d.toNat - '0'.toNat))
      else pure (some (c == '+'), none)
    else if c.isDigit then do
      if c == '0' then malformed
      forward 1
      let d ← peek 0
      if d == '+' || d == '-' then
        forward 1
        pure (some (d == '+'), some (c.toNat - '0'.toNat))
      else pure (none, some (c.toNat - '0'.toNat))
    else pure (none, none)
  if !isSpaceOrEnd (← peek 0) then malformed
  return r

/-- Moves over spaces while the column is left of `indent`. -/
def skipIndentTo (indent : Nat) : ScanM Unit := do
  let s ← get
  forward (min (runLength s.input (· == ' ') s.index) (indent - s.column))

/-- Reads empty lines of a block scalar, each indented up to `indent`, and answers their
line breaks. -/
def scanBlockBreaks (indent : Nat) : ScanM (List String) := do
  skipIndentTo indent
  go [] (← budget)
where
  go (acc : List String) : Nat → ScanM (List String)
    | 0 => return acc
    | fuel + 1 => do
      if isBreak (← peek 0) then
        let b ← lineBreak
        skipIndentTo indent
        go (acc ++ [b]) fuel
      else return acc

/-- Reads the empty lines before the first line of a block scalar with no explicit
indentation; the widest of their indentations is a lower bound for the block's. -/
def scanBlockIndentation : ScanM (List String × Nat) := do go [] 0 (← budget)
where
  go (acc : List String) (widest : Nat) : Nat → ScanM (List String × Nat)
    | 0 => return (acc, widest)
    | fuel + 1 => do
      let c ← peek 0
      if c == ' ' then
        forward 1
        go acc (max widest (← get).column) fuel
      else if isBreak c then
        let b ← lineBreak
        go (acc ++ [b]) widest fuel
      else return (acc, widest)

/-- Reads the lines of a block scalar at indentation `indent`. It answers the text, the
last line break and the empty lines after it, which chomping keeps or drops. In a folded
scalar a single line break between two lines that start with no blank becomes a space. -/
def scanBlockLines (folded : Bool) (indent : Nat) :
    String → String → List String → Nat → ScanM (String × String × List String)
  | acc, lb, breaks, 0 => return (acc, lb, breaks)
  | acc, lb, breaks, fuel + 1 => do
    let s ← get
    if !(s.column == indent && s.peekAt 0 != endMark) then return (acc, lb, breaks)
    let first := s.peekAt 0
    let leadingNonSpace := !(first == ' ' || first == '\t')
    let line ← takeWhile (fun c => !isBreakOrEnd c)
    let acc := acc ++ String.join breaks ++ line
    let lb ← lineBreak
    let breaks ← scanBlockBreaks indent
    let s ← get
    if s.column == indent && s.peekAt 0 != endMark then
      let c := s.peekAt 0
      let acc :=
        if folded && lb == "\n" && leadingNonSpace && !(c == ' ' || c == '\t') then
          if breaks.isEmpty then acc ++ " " else acc
        else acc ++ lb
      scanBlockLines folded indent acc lb breaks fuel
    else return (acc, lb, breaks)

/-- Reads a literal (`|`) or folded (`>`) block scalar. Its indentation is the explicit
one added to the enclosing block's, or else that of its first non-empty line. -/
def scanBlockScalar (folded : Bool) : ScanM Token := do
  forward 1
  let (chomping, increment) ← scanBlockIndicators
  skipWhile (· == ' ')
  if (← peek 0) == '#' then skipWhile (fun c => !isBreakOrEnd c)
  if !isBreakOrEnd (← peek 0) then malformed
  let _ ← lineBreak
  let minIndent := (max ((← get).indent + 1) 1).toNat
  let (breaks, indent) ←
    match increment with
    | none => do
      let (breaks, widest) ← scanBlockIndentation
      pure (breaks, max minIndent widest)
    | some k => do
      let indent := minIndent + k - 1
      pure (← scanBlockBreaks indent, indent)
  let (text, lb, trailing) ← scanBlockLines folded indent "" "" breaks (← budget)
  let text := if chomping != some false then text ++ lb else text
  let text := if chomping == some true then text ++ String.join trailing else text
  return .scalar text false

/-! ## Plain scalars -/

/-- Whether a plain scalar ends before character `c`, which `next` follows: at a blank,
at `:` before a blank, and in a flow collection at `,?[]{}` and at `:` before one of `,[]{}`. -/
def plainStops (flow : Bool) (c next : Char) : Bool :=
  let flowIndicator (d : Char) := d == ',' || d == '[' || d == ']' || d == '{' || d == '}'
  isBlankOrEnd c || (c == ':' && (isBlankOrEnd next || (flow && flowIndicator next))) ||
    (flow && (c == '?' || flowIndicator c))

/-- How many characters from place `i` on belong to one word of a plain scalar. -/
def plainLength (input : Array Char) (flow : Bool) (i : Nat) : Nat :=
  go i 0 (input.size - i + 1)
where
  go (j acc : Nat) : Nat → Nat
    | 0 => acc
    | fuel + 1 =>
      if plainStops flow (input.getD j endMark) (input.getD (j + 1) endMark) then acc
      else go (j + 1) (acc + 1) fuel

/-- Reads the blanks after a word of a plain scalar and answers them folded; none when a
document marker starts the next line, which ends the scalar. After a line break a simple
key may start again. -/
def scanPlainSpaces : ScanM (Option String) := do
  let blanks ← takeWhile (· == ' ')
  if !isBreak (← peek 0) then return some blanks
  let lb ← lineBreak
  modify fun s => { s with allowSimpleKey := true }
  if ← atDocumentMarker then return none
  match ← go [] (← budget) with
  | none => return none
  | some breaks =>
    let joint := if lb != "\n" then lb else if breaks.isEmpty then " " else ""
    return some (joint ++ String.join breaks)
where
  go (acc : List String) : Nat → ScanM (Option (List String))
    | 0 => return some acc
    | fuel + 1 => do
      let c ← peek 0
      if c == ' ' then
        forward 1
        go acc fuel
      else if isBreak c then
        let b ← lineBreak
        if ← atDocumentMarker then return none
        go (acc ++ [b]) fuel
      else return some acc

/-- Reads the words of a plain scalar, with `acc` read and the folded blanks `spaces`
pending. It ends before a comment, and in block context at a line indented less than
`indent`. -/
def scanPlainWords (indent : Int) : String → String → Nat → ScanM String
  | acc, _, 0 => return acc
  | acc, spaces, fuel + 1 => do
    if (← peek 0) == '#' then return acc
    let s ← get
    let n := plainLength s.input (s.flowLevel != 0) s.index
    if n == 0 then return acc
    modify fun s => { s with allowSimpleKey := false }
    let word ← ahead n
    forward n
    let acc := acc ++ spaces ++ word
    match ← scanPlainSpaces with
    | none => return acc
    | some spaces =>
      let s ← get
      if spaces.isEmpty || s.peekAt 0 == '#' || (s.flowLevel == 0 && (s.column : Int) < indent) then
        return acc
      scanPlainWords indent acc spaces fuel

/-- Reads a plain scalar; its continuation lines must be indented past the enclosing
block. -/
def scanPlain : ScanM Token := do
  let indent := (← get).indent + 1
  let text ← scanPlainWords indent "" "" (← budget)
  return .scalar text true

end CrudScaffold.Data.Yaml
