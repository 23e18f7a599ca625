import CrudScaffold.Data.Yaml.Token.Stream
import CrudScaffold.Data.Yaml.Graph

/-!
# Reading YAML

`Yaml.parse?` reads a YAML text into a `Value` by the safe schema of YAML 1.1: scalars
take the types of `Data.Yaml.Scalar`, a sequence is a list, a mapping is a mapping, and a
text with no document is null. A mapping tagged `set` is the set of its keys, and a
sequence tagged `omap` or `pairs` is a list of pairs, each item a mapping of one pair.

Values are built on the graph of the document's nodes (`Data.Yaml.Graph`), each node once: a
scalar's value is built when its node is first reached, and a collection is made empty when
its node is first reached and is filled later, level by level, the collections reached while
one level is filled forming the next. Of two faults, the one met first in this order is the
one reported.

Filling a mapping first applies its merge keys, and this changes the node. Each `<<` pair is
taken out; its value, a mapping or a list of mappings, has its own merge keys applied first,
and lends its pairs, those of a later mapping of a list before those of an earlier one. The
lent pairs go before the mapping's own, and a `=` key among its own is made a text key. Of
two equal keys the first keeps its place and the last gives the value, so that an own key
wins over a lent one, and an earlier mapping of a list over a later one. A key must be the
value of a scalar: a list, a set or a mapping cannot be one.

The value is then read off the filled nodes to a fixed depth, past which a node that
contains itself is cut off; a configuration looks no deeper than a few levels.
-/

namespace CrudScaffold.Data.Yaml

open CrudScaffold.Data

/-- What building has made of a node: a scalar's value, or a collection whose members are
given as cell numbers. -/
inductive Made where
  | scalar (v : Value)
  | list (items : List Nat)
  | pairs (items : List (Nat × Nat))
  | dict (entries : List (Nat × Nat))
  | set (keys : List Nat)
  deriving Inhabited

/-- How the value of a tag is built: a scalar value at once from the text of a scalar node,
or a collection that starts empty and is filled later; `none` for a tag the schema does not
know. -/
inductive Builder where
  | scalar
  | collection (empty : Made)
  | none

/-- How the value of a tag is built. -/
def builderOf (tag : String) : Builder :=
  if ["null", "bool", "int", "float", "binary", "timestamp", "str"].any (schemaTag · == tag) then
    .scalar
  else if tag == schemaTag "seq" then .collection (.list [])
  else if tag == schemaTag "map" then .collection (.dict [])
  else if tag == schemaTag "set" then .collection (.set [])
  else if tag == schemaTag "omap" || tag == schemaTag "pairs" then .collection (.pairs [])
  else .none

/-- The state of building: the cells as building has changed them, what each cell has been
made so far, and the collections waiting to be filled, in the order they were reached. -/
structure Building where
  cells : Array Cell
  made : Array (Option Made)
  waiting : List Nat := []

/-- Building a document's value; a fault stops it. -/
abbrev BuildM := StateT Building (Except Fault)

namespace BuildM

/-- The cell numbered `i`. -/
def cell (i : Nat) : BuildM Cell := return (← get).cells.getD i default

/-- The pairs of a mapping cell; another cell has none. -/
def pairsOf (c : Cell) : List (Nat × Nat) :=
  match c.shape with
  | .mapping ps => ps
  | _ => []

/-- Gives cell `i` the pairs `ps`. -/
def setPairs (i : Nat) (ps : List (Nat × Nat)) : BuildM Unit :=
  modify fun b => { b with cells := b.cells.modify i fun c => { c with shape := .mapping ps } }

/-- Gives cell `i` the tag `t`. -/
def setTag (i : Nat) (t : String) : BuildM Unit :=
  modify fun b => { b with cells := b.cells.modify i fun c => { c with tag := t } }

/-- What cell `i` has been made so far. -/
def madeOf (i : Nat) : BuildM (Option Made) := return (← get).made.getD i none

/-- Records what cell `i` has been made. -/
def record (i : Nat) (m : Made) : BuildM Unit :=
  modify fun b => { b with made := b.made.set! i (some m) }

/-- Reaches a node. The first time, a scalar value is built at once, a collection is made
empty and waits to be filled, and a tag without a builder, or a scalar tag on a collection,
is a fault. -/
def reach (i : Nat) : BuildM Unit := do
  if (← madeOf i).isSome then return
  let c ← cell i
  match builderOf c.tag, c.shape with
  | .scalar, .scalar text => record i (.scalar (← scalarValue c.tag text))
  | .collection empty, _ =>
    record i empty
    modify fun b => { b with waiting := b.waiting ++ [i] }
  | _, _ => throw .malformed

/-- The value of a key: its node is reached and must have been made a scalar value. -/
def keyValue (i : Nat) : BuildM Value := do
  reach i
  match ← madeOf i with
  | some (.scalar v) => return v
  | _ => throw .malformed

mutual
/-- Applies the merge keys of mapping cell `i`, changing it: the pairs lent go before those
left. -/
def flatten : Nat → Nat → BuildM Unit
  | 0, _ => pure ()
  | fuel + 1, i => do
    let lent ← mergeFrom fuel i 0 []
    unless lent.isEmpty do setPairs i (lent ++ pairsOf (← cell i))

/-- Goes through the pairs of mapping cell `i` from place `index` on, as they stand at each
step: a merge pair is taken out and the pairs its value lends are added to `lent`; a `=` key
is made a text key. Gives all the pairs lent. -/
def mergeFrom : Nat → Nat → Nat → List (Nat × Nat) → BuildM (List (Nat × Nat))
  | 0, _, _, lent => pure lent
  | fuel + 1, i, index, lent => do
    let ps := pairsOf (← cell i)
    match ps[index]? with
    | none => pure lent
    | some (k, v) =>
      let keyTag := (← cell k).tag
      if keyTag == schemaTag "merge" then
        setPairs i (ps.eraseIdx index)
        let more ← lentBy fuel v
        mergeFrom fuel i index (lent ++ more)
      else
        if keyTag == schemaTag "value" then setTag k (schemaTag "str")
        mergeFrom fuel i (index + 1) lent

/-- The pairs that the value `v` of a merge key lends: a mapping's, after its own merge
keys are applied, or those of each mapping of a list, the later mappings first. Anything
else is a fault. -/
def lentBy : Nat → Nat → BuildM (List (Nat × Nat))
  | 0, _ => pure []
  | fuel + 1, v => do
    match (← cell v).shape with
    | .mapping _ =>
      flatten fuel v
      return pairsOf (← cell v)
    | .sequence items =>
      let parts ← items.mapM fun item => do
        match (← cell item).shape with
        | .mapping _ =>
          flatten fuel item
          return pairsOf (← cell item)
        | _ => throw .malformed
      return parts.reverse.flatten
    | .scalar _ => throw .malformed
end

/-- The identity of key cell `i`: the cell itself, except that every float scalar spelled
`.nan` is one NaN, whose identity is a number no cell has. -/
def keyIdentity (i : Nat) : BuildM Nat := do
  let b ← get
  let c ← cell i
  match c.shape with
  | .scalar text =>
    if c.tag == schemaTag "float" && isSharedNaN text then return b.cells.size else return i
  | _ => return i

/-- Adds a key (its identity, its cell and its value) and the cell of its value to the
entries of a mapping: a key that equals one already there, or is the same object, gives
that key the new value; another key goes last. -/
def insertEntry : List (Nat × Nat × Value × Nat) → Nat → Nat → Value → Nat →
    List (Nat × Nat × Value × Nat)
  | [], id, k, kv, v => [(id, k, kv, v)]
  | (id', k', kv', v') :: rest, id, k, kv, v =>
    if id' == id || Value.sameKey kv' kv then (id', k', kv', v) :: rest
    else (id', k', kv', v') :: insertEntry rest id k kv v

/-- The entries of mapping cell `i` once its merge keys are applied: each key is built, and
must be a scalar, before its value is reached. A cell that is no mapping is a fault. -/
def mappingEntries (fuel i : Nat) : BuildM (List (Nat × Nat)) := do
  if let .mapping _ := (← cell i).shape then flatten fuel i
  match (← cell i).shape with
  | .mapping ps =>
    let entries ← ps.foldlM (fun acc (k, v) => do
      let kv ← keyValue k
      let id ← keyIdentity k
      reach v
      return insertEntry acc id k kv v) []
    return entries.map fun (_, k, _, v) => (k, v)
  | _ => throw .malformed

/-- Fills a collection that was reached: a list with its items, a mapping or a set with the
entries of its pairs, a list of pairs with the one pair of each item. A node that is not of
its tag's kind, or an item of a list of pairs that is not a mapping of one pair, is a
fault. -/
def fill (fuel i : Nat) : BuildM Unit := do
  match ← madeOf i with
  | some (.list _) =>
    match (← cell i).shape with
    | .sequence items =>
      items.forM reach
      record i (.list items)
    | _ => throw .malformed
  | some (.dict _) => record i (.dict (← mappingEntries fuel i))
  | some (.set _) => record i (.set ((← mappingEntries fuel i).map Prod.fst))
  | some (.pairs _) =>
    match (← cell i).shape with
    | .sequence items =>
      let ps ← items.mapM fun item => do
        match (← cell item).shape with
        | .mapping [(k, v)] =>
          reach k
          reach v
          return (k, v)
        | _ => throw .malformed
      record i (.pairs ps)
    | _ => throw .malformed
  | _ => pure ()

/-- Fills the waiting collections level by level, for at most `rounds` levels. -/
def fillAll (fuel : Nat) : Nat → BuildM Unit
  | 0 => pure ()
  | rounds + 1 => do
    let level := (← get).waiting
    unless level.isEmpty do
      modify fun b => { b with waiting := [] }
      level.forM (fill fuel)
      fillAll fuel rounds

end BuildM

/-- The value of cell `i` as building has made it, to depth `fuel`; deeper nodes read as
null. -/
def Building.valueOf (b : Building) : Nat → Nat → Value
  | 0, _ => .null
  | fuel + 1, i =>
    match b.made.getD i none with
    | some (.scalar v) => v
    | some (.list items) => .list (items.map (b.valueOf fuel))
    | some (.pairs ps) => .list (ps.map fun (k, v) => .list [b.valueOf fuel k, b.valueOf fuel v])
    | some (.dict es) => .dict (es.map fun (k, v) => (b.valueOf fuel k, b.valueOf fuel v))
    | some (.set ks) => .set (ks.map (b.valueOf fuel))
    | none => .null

/-- The value of a YAML text with at most one document; a text with no document is
null. -/
def parse? (text : String) : Except Fault Value := do
  let stream := Token.scan text
  let doc ← Document.ofStream? stream
  match doc.root with
  | none => return .null
  | some root =>
    let (cells, r) := doc.graph (2 * stream.tokens.size + 8) root
    let start : Building := { cells, made := Array.replicate cells.size none }
    let build : BuildM Unit := do
      BuildM.reach r
      BuildM.fillAll (8 * cells.size + 64) (cells.size + 1)
    let (_, b) ← build.run start
    return b.valueOf 24 r

end CrudScaffold.Data.Yaml
