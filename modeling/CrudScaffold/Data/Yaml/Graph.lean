import CrudScaffold.Data.Yaml.Node
import CrudScaffold.Data.Yaml.Scalar

/-!
# The node graph of a document

Building a document's value changes some of its nodes, and a change is seen wherever the
node stands: merging changes a mapping's pairs, and a `=` key becomes a text for good. The
nodes are therefore laid out as a graph of cells, one cell for each node, where an item or a
key or a value is the number of a cell and an alias is the cell of its anchor. Each cell
holds its node's full tag: its own, or the one its kind or its text gives.

The first cells belong to the anchors, in the order of `Document.anchors`, so that an alias
can name its anchor's cell before the anchored node is laid out; the root and the nodes
below it follow.
-/

namespace CrudScaffold.Data.Yaml

open CrudScaffold.Data

/-- What a node holds: a scalar's text, a sequence's items, or a mapping's pairs. -/
inductive Shape where
  | scalar (text : String)
  | sequence (items : List Nat)
  | mapping (pairs : List (Nat × Nat))
  deriving Inhabited, Repr

/-- A node of the graph: its full tag and what it holds. -/
structure Cell where
  tag : String
  shape : Shape
  deriving Inhabited, Repr

/-- The tag a scalar node has, or takes from its text. -/
def scalarTag (tag : Option String) (text : String) (plain : Bool) : String :=
  match tag with
  | some t => t
  | none => if plain then implicitTag text else schemaTag "str"

/-- Lays out a node and the nodes below it and gives the number of its cell; an alias
is the cell of its anchor, whose place among the names `names` is its number. -/
def placeNode (names : List String) : Nat → Node → StateM (Array Cell) Nat
  | 0, _ => pure 0
  | _ + 1, .alias a => pure (names.idxOf a)
  | _ + 1, .scalar tag text plain => push ⟨scalarTag tag text plain, .scalar text⟩
  | fuel + 1, .sequence tag items => do
    let ids ← items.mapM (placeNode names fuel)
    push ⟨tag.getD (schemaTag "seq"), .sequence ids⟩
  | fuel + 1, .mapping tag pairs => do
    let ids ← pairs.mapM fun (k, v) => do
      let kid ← placeNode names fuel k
      let vid ← placeNode names fuel v
      pure (kid, vid)
    push ⟨tag.getD (schemaTag "map"), .mapping ids⟩
where
  -- Adds a cell and gives its number.
  push (c : Cell) : StateM (Array Cell) Nat := do
    let cells ← get
    set (cells.push c)
    pure cells.size

/-- The cells of a document and the cell of its root. Each anchor's node is laid out and
then copied into its anchor's cell. -/
def Document.graph (d : Document) (fuel : Nat) (root : Node) : Array Cell × Nat :=
  let names := d.anchors.map Prod.fst
  let start : Array Cell := Array.replicate names.length default
  let layout : StateM (Array Cell) Nat := do
    for (i, (_, node)) in (List.range names.length).zip d.anchors do
      let j ← placeNode names fuel node
      modify fun cells => cells.set! i (cells.getD j default)
    placeNode names fuel root
  let (r, cells) := layout.run start
  (cells, r)

end CrudScaffold.Data.Yaml
