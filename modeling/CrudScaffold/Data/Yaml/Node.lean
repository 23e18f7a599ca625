import CrudScaffold.Data.Yaml.Token

/-!
# YAML nodes

The tokens of a text form at most one document: a tree of scalars, sequences and mappings
in which an alias stands for a node that an anchor named earlier. `Document.ofStream?`
reads that tree by the grammar of YAML 1.1, asking for each token only when the grammar
needs it, so that a fault of the scanner past the point where the grammar fails is never
met:

* a block node is an alias, or optional properties (anchor and tag, in either order)
  followed by a block or flow collection or a scalar; properties with nothing after them
  give an empty scalar;
* inside a block mapping a value may be a sequence whose `-` entries stand at the
  mapping's own indentation;
* in a flow sequence a `key: value` entry is a mapping of one pair.

An alias may name an anchor whose node is still being read, so a node may contain itself.
The document keeps the anchored nodes beside the tree, and an anchored node stands in the
tree as an alias of its anchor, at its own place as at every later one: its anchor is its
identity. At most `maxNesting` collections may be open at once: the reader's stack holds no
more. An anchor may be given once, and an alias must come after its anchor. A stream
with a second document is refused once the directives and the `---` that start it are read.
-/

namespace CrudScaffold.Data.Yaml

/-- A node of a YAML document. A tag of `none` is non-specific: the kind of the node
decides its type, and for a scalar whose `plain` flag is set, its text does. -/
inductive Node where
  | scalar (tag : Option String) (text : String) (plain : Bool)
  | sequence (tag : Option String) (items : List Node)
  | mapping (tag : Option String) (entries : List (Node × Node))
  | alias (name : String)
  deriving Repr, Inhabited

/-- The empty scalar that stands for an omitted node; it reads as null. -/
def Node.empty : Node := .scalar none "" true

/-- A document: its root node, or none for a stream with no document, and the nodes that
its anchors name. -/
structure Document where
  root : Option Node
  anchors : List (String × Node)
  deriving Inhabited

/-- The tag handles every document knows: `!` for local tags and `!!` for the tags of the
YAML schema. -/
def defaultHandles : List (String × String) := [("!", "!"), ("!!", "tag:yaml.org,2002:")]

/-- The state of reading nodes: the tokens and the place in them, the tag handles of the
document, the anchors given so far, and the anchored nodes read so far. -/
structure NodeReader where
  stream : TokenStream
  pos : Nat := 0
  handles : List (String × String) := defaultHandles
  named : List String := []
  anchors : List (String × Node) := []

/-- Reading nodes either goes on with a new state or finds that the text is not YAML. -/
abbrev ReadM := StateT NodeReader (Except Fault)

namespace ReadM

/-- Stops reading: the text is not YAML. -/
def fail {α : Type} : ReadM α := throw .malformed

/-- The next token; past the last one, the end of the stream. A token the scanner could not
hand on is its fault. -/
def peekToken : ReadM Token := do
  let s ← get
  if s.pos < s.stream.ready then return s.stream.tokens.getD s.pos .streamEnd
  match s.stream.fault with
  | some f => throw f
  | none => return .streamEnd

/-- Moves past the next token. -/
def advance : ReadM Unit := modify fun s => { s with pos := s.pos + 1 }

/-- Whether the next token is `t`. -/
def nextIs (t : Token) : ReadM Bool := do return (← peekToken) == t

/-- The tag that a tag token names: a handle is replaced by the prefix it stands for, and
a handle that the document does not know is an error. -/
def expandTag (handle : Option String) (suffix : String) : ReadM String := do
  match handle with
  | none => return suffix
  | some h =>
    match (← get).handles.lookup h with
    | some pre => return pre ++ suffix
    | none => fail

/-- Reads a node's properties: an optional anchor and an optional tag, in either order.
The tag's handle is resolved once both are read. -/
def readProperties : ReadM (Option String × Option String) := do
  let (anchor, tag) ← match ← peekToken with
    | .anchor a => do
      advance
      match ← peekToken with
      | .tag h suffix =>
        advance
        pure (some a, some (h, suffix))
      | _ => pure (some a, none)
    | .tag h suffix => do
      advance
      match ← peekToken with
      | .anchor a =>
        advance
        pure (some a, some (h, suffix))
      | _ => pure (none, some (h, suffix))
    | _ => pure (none, none)
  match tag with
  | some (h, suffix) => return (anchor, some (← expandTag h suffix))
  | none => return (anchor, none)

/-- Notes that anchor `a` is given; a second time is an error. -/
def nameAnchor (a : String) : ReadM Unit := do
  if (← get).named.contains a then fail
  modify fun s => { s with named := a :: s.named }

/-- How many collections may be open at once. -/
def maxNesting : Nat := 491

/-- Opens a collection inside `depth` others, when there is room for it. -/
def openCollection (depth : Nat) : ReadM Unit :=
  if depth < maxNesting then pure () else throw .tooDeep

theorem openCollection_room (depth : Nat) (s : NodeReader) (h : depth < maxNesting) :
    (openCollection depth).run s = .ok ((), s) := by
  simp [openCollection, h]; rfl

mutual

/-- Reads a node, inside `depth` open collections. In block context (`block`) it may be a block collection, and where
`indentless` holds it may be a sequence whose entries start at the current indentation. -/
def readNode : Nat → Nat → Bool → Bool → ReadM Node
  | 0, _, _, _ => fail
  | fuel + 1, depth, block, indentless => do
    if let .alias name ← peekToken then
      advance
      unless (← get).named.contains name do fail
      return .alias name
    let (anchor, tag) ← readProperties
    let open_ := tag.isNone || tag == some "!"
    let kindTag := if open_ then none else tag
    let emptyOrFail : ReadM Node :=
      if anchor.isSome || tag.isSome then pure (.scalar kindTag "" open_) else fail
    let t ← peekToken
    if let some a := anchor then nameAnchor a
    let node ←
      if indentless && t == .blockEntry then do
        openCollection depth
        pure (Node.sequence kindTag (← readIndentless fuel (depth + 1) []))
      else match t with
        | .scalar text plain => do
          advance
          pure (Node.scalar kindTag text ((plain && tag.isNone) || tag == some "!"))
        | .flowSequenceStart => do
          openCollection depth
          advance
          pure (Node.sequence kindTag (← readFlowSequence fuel (depth + 1) true []))
        | .flowMappingStart => do
          openCollection depth
          advance
          pure (Node.mapping kindTag (← readFlowMapping fuel (depth + 1) true []))
        | .blockSequenceStart =>
          if block then do
            openCollection depth
            advance
            pure (Node.sequence kindTag (← readBlockSequence fuel (depth + 1) []))
          else emptyOrFail
        | .blockMappingStart =>
          if block then do
            openCollection depth
            advance
            pure (Node.mapping kindTag (← readBlockMapping fuel (depth + 1) []))
          else emptyOrFail
        | _ => emptyOrFail
    match anchor with
    | some a =>
      modify fun s => { s with anchors := (a, node) :: s.anchors }
      return .alias a
    | none => return node

/-- Reads the entries of a block sequence up to its block end. -/
def readBlockSequence : Nat → Nat → List Node → ReadM (List Node)
  | 0, _, _ => fail
  | fuel + 1, depth, acc => do
    match ← peekToken with
    | .blockEntry =>
      advance
      let t ← peekToken
      let item ←
        if t == .blockEntry || t == .blockEnd then pure Node.empty
        else readNode fuel depth true false
      readBlockSequence fuel depth (acc ++ [item])
    | .blockEnd =>
      advance
      return acc
    | _ => fail

/-- Reads the entries of a sequence whose `-` stand at a mapping's indentation; it ends at
the first token that is no entry. -/
def readIndentless : Nat → Nat → List Node → ReadM (List Node)
  | 0, _, _ => fail
  | fuel + 1, depth, acc => do
    if ← nextIs .blockEntry then
      advance
      let t ← peekToken
      let item ←
        if t == .blockEntry || t == .key || t == .value || t == .blockEnd then pure Node.empty
        else readNode fuel depth true false
      readIndentless fuel depth (acc ++ [item])
    else return acc

/-- Reads the pairs of a block mapping up to its block end. A pair is a key, a value, or
both; what is omitted is empty. -/
def readBlockMapping : Nat → Nat → List (Node × Node) → ReadM (List (Node × Node))
  | 0, _, _ => fail
  | fuel + 1, depth, acc => do
    match ← peekToken with
    | .key =>
      advance
      let t ← peekToken
      let k ←
        if t == .key || t == .value || t == .blockEnd then pure Node.empty
        else readNode fuel depth true true
      let v ←
        if ← nextIs .value then do
          advance
          let t ← peekToken
          if t == .key || t == .value || t == .blockEnd then pure Node.empty
          else readNode fuel depth true true
        else pure Node.empty
      readBlockMapping fuel depth (acc ++ [(k, v)])
    | .blockEnd =>
      advance
      return acc
    | _ => fail

/-- Reads the entries of a flow sequence up to `]`, separated by commas; one trailing
comma is allowed. -/
def readFlowSequence : Nat → Nat → Bool → List Node → ReadM (List Node)
  | 0, _, _, _ => fail
  | fuel + 1, depth, first, acc => do
    if ← nextIs .flowSequenceEnd then
      advance
      return acc
    if !first then
      if ← nextIs .flowEntry then advance else fail
    let t ← peekToken
    if t == .key then
      openCollection depth
      advance
      let t ← peekToken
      let k ←
        if t == .value || t == .flowEntry || t == .flowSequenceEnd then pure Node.empty
        else readNode fuel (depth + 1) false false
      let v ←
        if ← nextIs .value then do
          advance
          let t ← peekToken
          if t == .flowEntry || t == .flowSequenceEnd then pure Node.empty
          else readNode fuel (depth + 1) false false
        else pure Node.empty
      readFlowSequence fuel depth false (acc ++ [.mapping none [(k, v)]])
    else if t == .flowSequenceEnd then
      advance
      return acc
    else
      let item ← readNode fuel depth false false
      readFlowSequence fuel depth false (acc ++ [item])

/-- Reads the pairs of a flow mapping up to `}`, separated by commas; an entry without
`:` has an empty value. -/
def readFlowMapping : Nat → Nat → Bool → List (Node × Node) → ReadM (List (Node × Node))
  | 0, _, _, _ => fail
  | fuel + 1, depth, first, acc => do
    if ← nextIs .flowMappingEnd then
      advance
      return acc
    if !first then
      if ← nextIs .flowEntry then advance else fail
    let t ← peekToken
    if t == .key then
      advance
      let t ← peekToken
      let k ←
        if t == .value || t == .flowEntry || t == .flowMappingEnd then pure Node.empty
        else readNode fuel depth false false
      let v ←
        if ← nextIs .value then do
          advance
          let t ← peekToken
          if t == .flowEntry || t == .flowMappingEnd then pure Node.empty
          else readNode fuel depth false false
        else pure Node.empty
      readFlowMapping fuel depth false (acc ++ [(k, v)])
    else if t == .flowMappingEnd then
      advance
      return acc
    else
      let k ← readNode fuel depth false false
      readFlowMapping fuel depth false (acc ++ [(k, Node.empty)])

end

/-- Whether a token is a directive. -/
def isDirective : Token → Bool
  | .versionDirective .. | .tagDirective .. | .reservedDirective => true
  | _ => false

/-- Reads the directives before an explicit document and sets its tag handles: those it
declares, then the default ones it does not redeclare. A second `%YAML`, a version other
than 1.x, or a handle declared twice is an error. -/
def readDirectives : Nat → Option (Nat × Nat) → List (String × String) → ReadM Unit
  | 0, _, _ => fail
  | fuel + 1, version, declared => do
    match ← peekToken with
    | .versionDirective major minor =>
      advance
      if version.isSome || major != 1 then fail
      readDirectives fuel (some (major, minor)) declared
    | .tagDirective h pre =>
      advance
      if declared.any (·.1 == h) then fail
      readDirectives fuel version (declared ++ [(h, pre)])
    | .reservedDirective =>
      advance
      readDirectives fuel version declared
    | _ =>
      let defaults := defaultHandles.filter fun (h, _) => !declared.any (·.1 == h)
      modify fun s => { s with handles := declared ++ defaults }

/-- Moves past any `...` markers. -/
def skipDocumentEnds : Nat → ReadM Unit
  | 0 => pure ()
  | fuel + 1 => do
    if ← nextIs .documentEnd then
      advance
      skipDocumentEnds fuel

/-- Reads the stream's only document, if it has one. A document without `---` starts
at once; after `---` an empty document is an empty scalar. -/
def readStream (fuel : Nat) : ReadM (Option Node) := do
  advance
  let t ← peekToken
  let doc ←
    if !(isDirective t || t == .documentStart || t == .streamEnd) then do
      pure (some (← readNode fuel 0 true false))
    else do
      skipDocumentEnds fuel
      if ← nextIs .streamEnd then pure none
      else do
        readDirectives fuel none []
        if !(← nextIs .documentStart) then fail
        advance
        let t ← peekToken
        if isDirective t || t == .documentStart || t == .documentEnd || t == .streamEnd then
          pure (some Node.empty)
        else pure (some (← readNode fuel 0 true false))
  skipDocumentEnds fuel
  if !(← nextIs .streamEnd) then
    readDirectives fuel none []
    fail
  return doc

end ReadM

/-- The document that a stream of tokens holds. -/
def Document.ofStream? (stream : TokenStream) : Except Fault Document := do
  let (root, s) ← (ReadM.readStream (2 * stream.tokens.size + 8)).run { stream }
  return { root, anchors := s.anchors }

end CrudScaffold.Data.Yaml
