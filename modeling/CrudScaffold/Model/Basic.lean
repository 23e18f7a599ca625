import CrudScaffold.Data.Value
import CrudScaffold.Failure
import CrudScaffold.Naming.Studly

/-!
# Models

A model is the class of records a controller serves, or an instance of it. The generator
needs three facts about it: the table it is stored in, its qualified name (module and class
path), and its class name.

The table is the first non-empty text among: the table the class is mapped onto, the class
attribute `__tablename__`, and what calling `get_table` gives. A getter defined as an ordinary
method can only be called on an instance; calling it on the class fails for want of `self`.
A model whose table cannot be found is refused, and so is the absent model.
-/

namespace CrudScaffold

open CrudScaffold.Data

/-- How a table getter that is an ordinary method fails: a type error is reported as a getter
that cannot be called, a value error passes through. -/
inductive GetterError where
  | typeError
  | valueError
  deriving DecidableEq, Repr

/-- How a model class defines `get_table`, and what a call gives. An ordinary method, and a
callable set on each instance, answer on an instance only; a constant cannot be called, and a
raising method raises with the text `boom`. -/
inductive TableGetter where
  | method (result : Value)
  | static (result : Value)
  | classMethod (result : Value)
  | constant (value : Value)
  | onInstance (result : Value)
  | raising (error : GetterError)
  deriving Inhabited

/-- A model class as the generator sees it: its module (`none` when not recorded), its path
in the module and its name, the table it is mapped onto, its `__tablename__`, and its table
getter. -/
structure ModelClass where
  module : Option String := some "app.models"
  qualname : String := "Model"
  name : String := "Model"
  mappedTable : Option String := none
  tablename : Option Value := none
  getter : Option TableGetter := none
  deriving Inhabited

/-- A class that comes with the language or with a library, named by its module and its
path inside the module. -/
structure TypeName where
  module : String
  qualname : String
  deriving DecidableEq, Repr, Inhabited

/-- The language's own class of this name. -/
def TypeName.builtin (qualname : String) : TypeName := ⟨"builtins", qualname⟩

/-- The name of a class as qualified names show it: its module and path, or its path alone
for a class of the language's own module. -/
def TypeName.shown (t : TypeName) : String :=
  if t.module == "builtins" then t.qualname else t.module ++ "." ++ t.qualname

/-- The callables and descriptors that looking a member up makes, each named by its class of
the language (`CallableKind.typeName`). -/
inductive CallableKind where
  | slotWrapper
  | methodWrapper
  | methodDescriptor
  | builtinMethod
  | fieldDescriptor
  | function
  | boundMethod
  deriving DecidableEq, Repr, Inhabited

/-- The class of the language whose objects the callables of a kind are. -/
def CallableKind.typeName : CallableKind → String
  | slotWrapper => "wrapper_descriptor"
  | methodWrapper => "method-wrapper"
  | methodDescriptor => "method_descriptor"
  | builtinMethod => "builtin_function_or_method"
  | fieldDescriptor => "getset_descriptor"
  | function => "function"
  | boundMethod => "method"

/-- Anything the generator may be handed where it expects a model; `plain .null` is no model
at all, and a callable is known by its kind, owner, name and what it is bound to. -/
inductive Model where
  | cls (c : ModelClass)
  | inst (c : ModelClass)
  | plain (v : Value)
  | module (name : String)
  | builtinClass (t : TypeName)
  | instanceOf (t : TypeName)
  | callable (kind : CallableKind) (owner : Model) (name : String) (self : Option Model)
  deriving Inhabited

namespace Model

/-- Whether the object is a class. -/
def isClass : Model → Bool
  | cls _ | builtinClass _ => true
  | _ => false

/-- The class path of the object's class (of the object itself, for a class). -/
def typeQualname : Model → String
  | cls c | inst c => c.qualname
  | plain v => v.kindName
  | module _ => "module"
  | builtinClass t | instanceOf t => t.qualname
  | callable k _ _ _ => k.typeName

/-- The name of the object's class (of the object itself, for a class). -/
def className : Model → String
  | cls c | inst c => c.name
  | m => m.typeQualname

/-- The module and class path of the object's class; the module is left out when it is not
recorded, empty, or the language's own. -/
def qualifiedName : Model → String
  | cls c | inst c =>
    match c.module with
    | some m => if m.isEmpty || m == "builtins" then c.qualname else m ++ "." ++ c.qualname
    | none => c.qualname
  | builtinClass t | instanceOf t => t.shown
  | m => m.typeQualname

/-- How the object prints: `<class 'module.path'>` for a class, `<path instance>` for an
instance. A class of the language's own module, or of no module, prints its bare name. -/
def repr : Model → String
  | cls c =>
    match c.module with
    | some m => if m == "builtins" then "<class '" ++ c.name ++ "'>"
      else "<class '" ++ m ++ "." ++ c.qualname ++ "'>"
    | none => "<class '" ++ c.name ++ "'>"
  | inst c => "<" ++ c.qualname ++ " instance>"
  | builtinClass t => "<class '" ++ t.shown ++ "'>"
  | m => "<" ++ m.typeQualname ++ " object>"

end Model

/-- The failure of a getter called on `shown` without the instance it needs. -/
def missingSelf (c : ModelClass) (shown : String) : Failure :=
  .reflection (c.qualname ++ ".get_table() cannot be called on " ++ shown ++ ": " ++
    c.qualname ++ ".get_table() missing 1 required positional argument: 'self'")

/-- What calling the table getter of `c` gives, on an instance or on the class itself (which
prints as `shown`): nothing when there is no getter to call, else the value it returns. -/
def ModelClass.callGetter (c : ModelClass) (onInstance : Bool) (shown : String) :
    Except Failure (Option Value) :=
  match c.getter, onInstance with
  | none, _ => .ok none
  | some (.method r), true => .ok (some r)
  | some (.method _), false => .error (missingSelf c shown)
  | some (.static r), _ => .ok (some r)
  | some (.classMethod r), _ => .ok (some r)
  | some (.constant _), _ => .ok none
  | some (.onInstance r), true => .ok (some r)
  | some (.onInstance _), false => .ok none
  | some (.raising _), false => .error (missingSelf c shown)
  | some (.raising .typeError), true =>
    .error (.reflection (c.qualname ++ ".get_table() cannot be called on " ++ shown ++ ": boom"))
  | some (.raising .valueError), true => .error (.valueError "boom")

/-- A value that names a table: a non-empty text. -/
def tableText? : Value → Option String
  | .str s => if s.isEmpty then none else some s
  | _ => none

/-- The failure for a class of this path that has no table. -/
def noTable (qualname : String) : Failure :=
  .reflection ("Cannot determine the table of " ++ qualname ++ ": it is not a mapped " ++
    "SQLAlchemy model and defines neither get_table() nor __tablename__.")

/-- The table of a model class: the mapped table, else `__tablename__`, else what the getter
gives, whichever is first a non-empty text. -/
def ModelClass.table (c : ModelClass) (onInstance : Bool) (shown : String) :
    Except Failure String :=
  match c.mappedTable.bind (tableText? ∘ .str) with
  | some t => .ok t
  | none =>
    match c.tablename.bind tableText? with
    | some t => .ok t
    | none => do
      let r ← c.callGetter onInstance shown
      match r.bind tableText? with
      | some t => pure t
      | none => throw (noTable c.qualname)

/-- The table of a model. -/
def Model.table : Model → Except Failure String
  | .plain .null => .error (.reflection "Cannot introspect a model of type None.")
  | .cls c => c.table false (Model.cls c).repr
  | .inst c => c.table true (Model.inst c).repr
  | m => .error (noTable m.typeQualname)

/-- What the generator knows of a model once it has read it. -/
structure ModelInfo where
  table : String
  qualifiedName : String
  className : String
  deriving DecidableEq, Repr

/-- The class name without its module, first letter in lower case. -/
def ModelInfo.shortName (i : ModelInfo) : String := Naming.shortName i.qualifiedName

/-- How a read model prints. -/
def ModelInfo.repr (i : ModelInfo) : String :=
  "<ModelIntrospector " ++ i.qualifiedName ++ " table=" ++ i.table ++ ">"

/-- Reads a model: its table, its qualified name and its class name. -/
def Model.introspect (m : Model) : Except Failure ModelInfo := do
  let table ← m.table
  pure ⟨table, m.qualifiedName, m.className⟩

end CrudScaffold
