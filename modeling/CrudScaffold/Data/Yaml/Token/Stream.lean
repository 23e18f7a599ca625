import CrudScaffold.Data.Yaml.Token.Scalar

/-!
# The token stream of a YAML text

`Token.scan` cuts a text into tokens, one fetch at a time, and keeps count of the tokens it
could hand on before a fault stopped it (`TokenStream`). Besides the tokens the characters
spell, it adds those that the layout implies:

* a `blockSequenceStart` or `blockMappingStart` when an entry or key stands further right
  than the enclosing block, and a `blockEnd` for every block that a less indented line
  closes;
* a `key` before a node that turns out to be a mapping key. Whether a node is a key is
  known only at the `:` after it, so the place of each node that could be a key (a
  *simple key*) is remembered, one per flow level, until the `:` comes or the line ends.
  A simple key that the indentation demands and that no `:` follows makes the text
  malformed.

Tabs never count as indentation: a token may not start with a tab.
-/

namespace CrudScaffold.Data.Yaml

open ScanM

/-- Forgets the pending simple keys that can no longer be keys: a key must end on the line
it starts on and within 1024 characters. A forgotten required key is an error. -/
def staleSimpleKeys : ScanM Unit := do
  let s ← get
  let (stale, fresh) := s.simpleKeys.partition fun (_, k) =>
    k.line != s.line || s.index - k.index > 1024
  if stale.any (·.2.required) then malformed
  set { s with simpleKeys := fresh }

/-- Forgets the simple key pending at the current flow level; a required one is an error. -/
def removeSimpleKey : ScanM Unit := do
  let s ← get
  match s.simpleKeys.lookup s.flowLevel with
  | some k =>
    if k.required then malformed
    set { s with simpleKeys := s.simpleKeys.filter (·.1 != s.flowLevel) }
  | none => pure ()

/-- Remembers that the next token may be a simple key, if a key may start here. In block
context a key is required where a node starts at the block's own indentation. -/
def saveSimpleKey : ScanM Unit := do
  let s ← get
  let required := s.flowLevel == 0 && s.indent == (s.column : Int)
  if s.allowSimpleKey then
    removeSimpleKey
    modify fun s =>
      let key : SimpleKey :=
        { tokenNumber := s.tokens.size, required, index := s.index, line := s.line,
          column := s.column }
      { s with simpleKeys := (s.flowLevel, key) :: s.simpleKeys }

/-- Closes, in block context, every block indented further than `column`. -/
def unwindIndent (column : Int) : ScanM Unit := do
  let s ← get
  if s.flowLevel != 0 then return
  repeatWhile (s.indents.length + 1) do
    let s ← get
    match s.indents with
    | outer :: rest =>
      if s.indent > column then
        set { s with indent := outer, indents := rest, tokens := s.tokens.push .blockEnd }
        return true
      else return false
    | [] => return false

/-- Opens a block at `column` if it stands further right than the current one. -/
def addIndent (column : Int) : ScanM Bool := do
  let s ← get
  if s.indent < column then
    set { s with indent := column, indents := s.indent :: s.indents }
    return true
  return false

/-- Puts a token at place `i` of the tokens so far. -/
def insertToken (i : Nat) (t : Token) : ScanM Unit :=
  modify fun s => { s with tokens := (s.tokens.toList.take i ++ t :: s.tokens.toList.drop i).toArray }

/-- Sets whether a simple key may start next. -/
def setAllowSimpleKey (b : Bool) : ScanM Unit :=
  modify fun s => { s with allowSimpleKey := b }

/-- Moves over spaces, comments and line breaks to the next token, and over a byte order
mark at the very start. A line break in block context lets a simple key start. -/
def skipToToken : ScanM Unit := do
  if (← get).index == 0 && (← peek 0) == '\uFEFF' then forward 1
  repeatWhile (← budget) do
    skipWhile (· == ' ')
    if (← peek 0) == '#' then skipWhile (fun c => !isBreakOrEnd c)
    if (← lineBreak).isEmpty then return false
    if (← get).flowLevel == 0 then setAllowSimpleKey true
    return true

/-- Ends the stream: every block closes. -/
def fetchStreamEnd : ScanM Unit := do
  unwindIndent (-1)
  removeSimpleKey
  modify fun s => { s with allowSimpleKey := false, simpleKeys := [] }
  push .streamEnd
  modify fun s => { s with done := true }

/-- A directive, or a `---` or `...` marker: every block closes first. -/
def fetchDocumentLevel (read : ScanM Token) : ScanM Unit := do
  unwindIndent (-1)
  removeSimpleKey
  setAllowSimpleKey false
  push (← read)

/-- `[` or `{`: may itself start a simple key, and opens a flow level. -/
def fetchFlowStart (t : Token) : ScanM Unit := do
  saveSimpleKey
  modify fun s => { s with flowLevel := s.flowLevel + 1, allowSimpleKey := true }
  forward 1
  push t

/-- `]` or `}`: closes a flow level; one that no bracket opened is an error. -/
def fetchFlowEnd (t : Token) : ScanM Unit := do
  removeSimpleKey
  let s ← get
  if s.flowLevel == 0 then malformed
  set { s with flowLevel := s.flowLevel - 1, allowSimpleKey := false }
  forward 1
  push t

/-- `,` between flow entries. -/
def fetchFlowEntry : ScanM Unit := do
  setAllowSimpleKey true
  removeSimpleKey
  forward 1
  push .flowEntry

/-- Opens, in block context, a block sequence or mapping at the cursor's column when an
entry or key stands further right than the current block; such a token may only come
where a simple key could start. -/
def openBlockHere (start : Token) : ScanM Unit := do
  let s ← get
  if s.flowLevel == 0 then
    if !s.allowSimpleKey then malformed
    if ← addIndent s.column then push start

/-- `-` followed by a blank: an entry of a block sequence. -/
def fetchBlockEntry : ScanM Unit := do
  openBlockHere .blockSequenceStart
  setAllowSimpleKey true
  removeSimpleKey
  forward 1
  push .blockEntry

/-- `?`: an explicit mapping key. -/
def fetchKey : ScanM Unit := do
  openBlockHere .blockMappingStart
  setAllowSimpleKey ((← get).flowLevel == 0)
  removeSimpleKey
  forward 1
  push .key

/-- `:`: a mapping value. When a simple key is pending at this flow level, the node there
becomes a key, and in block context may open a mapping at its column. -/
def fetchValue : ScanM Unit := do
  let s ← get
  match s.simpleKeys.lookup s.flowLevel with
  | some k =>
    set { s with simpleKeys := s.simpleKeys.filter (·.1 != s.flowLevel) }
    insertToken k.tokenNumber .key
    if s.flowLevel == 0 then
      if ← addIndent k.column then insertToken k.tokenNumber .blockMappingStart
    setAllowSimpleKey false
  | none =>
    openBlockHere .blockMappingStart
    setAllowSimpleKey ((← get).flowLevel == 0)
    removeSimpleKey
  forward 1
  push .value

/-- A node that may turn out to be a simple key, after which no key may start at once. -/
def fetchKeyCandidate (read : ScanM Token) : ScanM Unit := do
  saveSimpleKey
  setAllowSimpleKey false
  push (← read)

/-- A block scalar, after which a simple key may start. -/
def fetchBlockScalar (folded : Bool) : ScanM Unit := do
  setAllowSimpleKey true
  removeSimpleKey
  push (← scanBlockScalar folded)

/-- Whether a plain scalar may start at character `c`, which `next` follows. -/
def startsPlain (flow : Bool) (c next : Char) : Bool :=
  let indicator := c == '-' || c == '?' || c == ':' || c == ',' || c == '[' || c == ']' ||
    c == '{' || c == '}' || c == '#' || c == '&' || c == '*' || c == '!' || c == '|' ||
    c == '>' || c == '\x27' || c == '"' || c == '%' || c == '@' || c == '\x60'
  !(isBlankOrEnd c || indicator) ||
    (!isBlankOrEnd next && (c == '-' || (!flow && (c == '?' || c == ':'))))

/-- Reads the next token, with the block ends and keys that come before it. -/
def fetchNext : ScanM Unit := do
  skipToToken
  staleSimpleKeys
  unwindIndent (← get).column
  let s ← get
  let c := s.peekAt 0
  let next := s.peekAt 1
  let flow := s.flowLevel != 0
  let atLineStart := s.column == 0
  if c == endMark then fetchStreamEnd
  else if c == '%' && atLineStart then fetchDocumentLevel scanDirective
  else if (c == '-' || c == '.') && atLineStart && (← atDocumentMarker) then
    fetchDocumentLevel do
      forward 3
      pure (if c == '-' then .documentStart else .documentEnd)
  else if c == '[' then fetchFlowStart .flowSequenceStart
  else if c == '{' then fetchFlowStart .flowMappingStart
  else if c == ']' then fetchFlowEnd .flowSequenceEnd
  else if c == '}' then fetchFlowEnd .flowMappingEnd
  else if c == ',' then fetchFlowEntry
  else if c == '-' && isBlankOrEnd next then fetchBlockEntry
  else if c == '?' && (flow || isBlankOrEnd next) then fetchKey
  else if c == ':' && (flow || isBlankOrEnd next) then fetchValue
  else if c == '*' then fetchKeyCandidate (do return .alias (← scanAnchorName))
  else if c == '&' then fetchKeyCandidate (do return .anchor (← scanAnchorName))
  else if c == '!' then fetchKeyCandidate scanTag
  else if c == '|' && !flow then fetchBlockScalar false
  else if c == '>' && !flow then fetchBlockScalar true
  else if c == '\x27' then fetchKeyCandidate (scanQuoted false)
  else if c == '"' then fetchKeyCandidate (scanQuoted true)
  else if startsPlain flow c next then fetchKeyCandidate scanPlain
  else malformed

/-- How many tokens can be handed on, given that the first `ready` could before: all of
them once the stream has ended, else those before the first pending simple key. -/
def Scanner.readyCount (s : Scanner) (ready : Nat) : Nat :=
  if s.done then s.tokens.size
  else max ready (s.simpleKeys.foldl (fun m (_, k) => min m k.tokenNumber) s.tokens.size)

/-- One fetch, and then, unless the stream has ended, the check for keys gone stale that
comes before any token is handed on. -/
def fetchAndCheck : ScanM Unit := do
  fetchNext
  unless (← get).done do staleSimpleKeys

/-- Scans on from state `s`, in which `ready` tokens can be handed on, for at most `fuel`
fetches; running out of fetches is a fault. -/
def scanFrom (s : Scanner) (ready : Nat) : Nat → TokenStream
  | 0 => { tokens := s.tokens, ready, fault := some .malformed }
  | fuel + 1 =>
    match fetchAndCheck.run s with
    | .error f => { tokens := s.tokens, ready, fault := some f }
    | .ok ((), s') =>
      if s'.done then { tokens := s'.tokens, ready := s'.tokens.size, fault := none }
      else scanFrom s' (s'.readyCount ready) fuel

/-- The tokens of a YAML text, from `streamStart` to `streamEnd`, as far as the scanner
gets. A text that holds a character outside the printable set is refused before anything
else. -/
def Token.scan (text : String) : TokenStream :=
  let input := text.toList.toArray
  if !input.all isPrintable then { tokens := #[], ready := 0, fault := some .malformed }
  else scanFrom { input, tokens := #[.streamStart] } 1 (4 * input.size + 8)

end CrudScaffold.Data.Yaml
