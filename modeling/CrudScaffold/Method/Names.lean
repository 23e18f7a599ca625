import CrudScaffold.Model.Basic
import CrudScaffold.Naming.Snake
import CrudScaffold.Naming.Words
import CrudScaffold.Naming.Plural

/-!
# Resource identifiers

The identifiers a generated method uses for its model: the class name, a variable for one
record (the snake-case short name), a variable for many (its plural), the path key
(`record_id`) and a label for messages. With a parent model come the parent's class, its
variable and its key; a parent of the same variable name as the model is prefixed with
`parent_`, so a category inside a category reads `parent_category`.
-/

namespace CrudScaffold.Method

/-- The identifiers of a parent model. The key is absent when the variable is empty. -/
structure ParentNames where
  className : String
  var : String
  key : Option String
  deriving DecidableEq, Repr

/-- The identifiers one generated method uses. -/
structure ResourceNames where
  modelClass : String
  modelVar : String
  collectionVar : String
  key : String
  label : String
  table : String
  parent : Option ParentNames := none
  deriving DecidableEq, Repr

/-- The identifiers of a parent, given the model's variable name. -/
def ParentNames.of (modelVar : String) (p : ModelInfo) : ParentNames :=
  let v := Naming.snake p.shortName
  let v := if v == modelVar then "parent_" ++ v else v
  ⟨p.className, v, if v.isEmpty then none else some (v ++ "_id")⟩

/-- The identifiers for a model and an optional parent. -/
def ResourceNames.of (model : ModelInfo) (parent : Option ModelInfo) : ResourceNames :=
  let v := Naming.snake model.shortName
  { modelClass := model.className
    modelVar := v
    collectionVar := Naming.plural v
    key := v ++ "_id"
    label := Naming.title v
    table := model.table
    parent := parent.map (ParentNames.of v) }

end CrudScaffold.Method
