import CrudScaffold.Method.Web
import CrudScaffold.Method.Api
import CrudScaffold.Model.Basic

/-!
# Method descriptors

A descriptor is one controller method being prepared for a model: it holds the model, an
optional parent model, an optional method name, and the qualified names that its code needs
imported, in the order they were added (repetitions kept). Operations read or change it in place, so
an operation that fails keeps what it changed before it failed.

A descriptor asks an oracle whether a custom request class exists, and keeps the questions it
asked. The folder where its request classes are looked for is fixed when it is made. Its
method name is the one last set, when that is not empty, and otherwise the class name with
its first letter in lower case.

Generating code first prepares a resource method: it computes the resource identifiers and
adds the imports every method of its base needs. Then the method's template runs.
-/

namespace CrudScaffold.Method

open CrudScaffold.Config CrudScaffold.Namespace

/-- Says whether a qualified class name exists. -/
abbrev Oracle := String → Except Failure Bool

/-- A controller method being prepared. -/
structure Descriptor where
  cls : MethodClass
  settings : Settings
  model : ModelInfo
  parent : Option ModelInfo := none
  explicitName : Option String := none
  namespaces : List String := []
  names? : Option ResourceNames := none
  requestFolder : String
  queries : List String := []

/-- Operations on a descriptor, which may fail; a failure keeps the changes made before it. -/
abbrev Op := EStateM Failure Descriptor

/-- Runs an operation for its value and the descriptor it leaves, dropping the descriptor of
an operation that fails. -/
def Op.attempt {α : Type} (x : Op α) (d : Descriptor) : Except Failure (α × Descriptor) :=
  match x.run d with
  | .ok a d' => .ok (a, d')
  | .error e _ => .error e

namespace Descriptor

/-- A descriptor of a class for a model; the model must be readable. -/
def create (cls : MethodClass) (settings : Settings) (model : Model) : Except Failure Descriptor := do
  let info ← model.introspect
  pure { cls, settings, model := info,
         requestFolder := Namespace.requestFolder (requestRoot settings cls.isApi) info.table }

/-- The method name: the one set, unless empty, else the class name with a lower-case first
letter. -/
def methodName (d : Descriptor) : String :=
  match d.explicitName with
  | some n => if n.isEmpty then Naming.lcfirst d.cls.className else n
  | none => Naming.lcfirst d.cls.className

/-- Whether a parent model is attached. -/
def hasParent (d : Descriptor) : Bool := d.parent.isSome

/-- The short name of the model. -/
def modelShortName (d : Descriptor) : String := d.model.shortName

/-- The short name of the parent model. -/
def parentShortName (d : Descriptor) : Except Failure String :=
  match d.parent with
  | some p => .ok p.shortName
  | none => .error (.reflection (d.cls.className ++ " has no parent model; call set_parent() first."))

/-- The resource identifiers of the last preparation. -/
def names (d : Descriptor) : Except Failure ResourceNames :=
  match d.names? with
  | some n => .ok n
  | none => .error .notPrepared

/-- How the descriptor prints. -/
def repr (d : Descriptor) : String :=
  "<" ++ d.cls.className ++ " " ++ d.methodName ++ " model=" ++ d.model.qualifiedName ++ ">"

/-- The context the templates build from. -/
def context (d : Descriptor) (n : ResourceNames) : Context :=
  ⟨n, d.settings, d.methodName, d.cls.isApi⟩

end Descriptor

/-- Adds qualified names to import. -/
def addNamespaces (qs : List String) : Op Unit :=
  modify fun d => { d with namespaces := d.namespaces ++ qs }

/-- Sets the method name. -/
def setMethodName (n : String) : Op Unit :=
  modify fun d => { d with explicitName := some n }

/-- Attaches a parent model and adds its qualified name to the imports, again on every call. -/
def setParent (m : Model) : Op Unit := do
  let p ← MonadExcept.ofExcept m.introspect
  modify fun d => { d with parent := some p, namespaces := d.namespaces ++ [p.qualifiedName] }

/-- The request class of the method: asks the oracle for the custom class in the request
folder, and adds its import when it exists. -/
def resolveRequest (oracle : Oracle) : Op RequestClass := do
  let d ← get
  let (candidate, path) := requestCandidate d.methodName d.requestFolder d.settings.request.classSuffix
  modify fun d => { d with queries := d.queries ++ [path] }
  let found ← MonadExcept.ofExcept (oracle path)
  let rc := chooseRequest candidate path found
  if let some q := rc.importPath then addNamespaces [q]
  pure rc

/-- The name of the method's request class. -/
def requestClass (oracle : Oracle) : Op String := (·.name) <$> resolveRequest oracle

/-- The imports a base adds when it prepares, after the resource identifiers are known. -/
def baseImports (d : Descriptor) (n : ResourceNames) : List String :=
  match d.cls.base with
  | .plain => []
  | b =>
    let common := [d.model.qualifiedName, "fastapi.Depends", "sqlalchemy.ext.asyncio.AsyncSession",
      d.settings.controller.sessionDependency]
    match b with
    | .web => common ++ ["fastapi.Request"]
    | .api => common ++ [(d.context n).resourceImport]
    | _ => common

/-- Prepares a resource method: computes the identifiers and adds the imports of its base.
Other methods have nothing to prepare. -/
def beforeGenerate : Op Unit := do
  let d ← get
  if d.cls.base.isResource then
    let n := ResourceNames.of d.model d.parent
    set { d with names? := some n, namespaces := d.namespaces ++ baseImports d n }

/-- Runs a template, adding the imports it records. -/
def emit (t : Emit String) : Op String := do
  let (code, qs) := t.run []
  addNamespaces qs
  pure code

/-- Whether the action's template reads submitted data, and so asks for a request class. -/
def Action.readsInput : Action → Bool
  | .store | .update => true
  | _ => false

/-- The code of the method: nothing for a method without a way to generate; otherwise the
method is prepared and its template runs. -/
def code (oracle : Oracle) : Op String := do
  let d ← get
  match d.cls.mode with
  | .none => pure ""
  | mode =>
    beforeGenerate
    let d ← get
    match d.cls, d.names? with
    | .web a, some n =>
      let rc ← requestOf a
      emit ((d.context n).webCode rc a)
    | .api a, some n =>
      let rc ← requestOf a
      emit ((d.context n).apiCode rc a)
    | _, _ =>
      let name := d.methodName
      let rc ← requestClass oracle
      pure ((if mode == .view then "view:" else "redirect:") ++ name ++ ":" ++ rc)
where
  -- The request class an action's template reads its data as.
  requestOf (a : Action) : Op RequestClass :=
    if a.readsInput then resolveRequest oracle else pure ⟨fallbackRequestClass, none⟩

end CrudScaffold.Method
