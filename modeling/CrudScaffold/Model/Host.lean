import CrudScaffold.Model.Attribute
import CrudScaffold.Text.Split

/-!
# Modules

The modules a run can import: each described module, and every package above one (a
package is empty). A described module either holds named objects, or fails when imported:
because a module it needs is missing, or with an import error of its own. Importing a
module imports the packages above it first, outermost first; a module already imported is
not imported again. Importing a module also makes it an attribute of the package above it.

Two questions are answered from the modules. Whether a dotted name is a class: only a name
with no empty segment and a module part can be, a missing module (or package above it) means
no, any other import failure passes through, and otherwise the attribute of the module,
found as any attribute is, must be a class. And which object a path such as
`package.module:Class.attribute` names.
-/

namespace CrudScaffold

open CrudScaffold.Data

/-- What importing a described module does: it holds named objects, or it fails for a module
that cannot be found or with an import error. -/
inductive ModuleBody where
  | objects (entries : List (String × Model))
  | broken (missing : Option String)
  | failing (message : String)
  deriving Inhabited

/-- The importable modules, and those imported so far. -/
structure Host where
  modules : List (String × ModuleBody) := []
  loaded : List String := []
  deriving Inhabited

namespace Host

/-- The description of a module. -/
def body? (h : Host) (name : String) : Option ModuleBody := h.modules.lookup name

/-- Whether a module is a package above a described module. -/
def isPackage (h : Host) (name : String) : Bool :=
  h.modules.any fun (k, _) => (name ++ ".").isPrefixOf k

/-- The modules imported for a module name, outermost first: the name cut before each of its
dots, then the name itself. -/
def importChain (name : String) : List String :=
  let cs := name.toList
  ((List.range cs.length).filter fun i => cs[i]? = some '.').map
    (fun i => String.ofList (cs.take i)) ++ [name]

/-- Imports one module whose packages are imported, given the modules imported so far. -/
def importOne (h : Host) (loaded : List String) (name : String) : Except Failure (List String) :=
  if loaded.contains name then .ok loaded
  else
    match h.body? name with
    | some (.broken missing) => .error (.moduleNotFound missing)
    | some (.failing text) => .error (.importFailed text)
    | some (.objects _) => .ok (loaded ++ [name])
    | none =>
      if h.isPackage name then .ok (loaded ++ [name]) else .error (.moduleNotFound (some name))

/-- Imports a module and the packages above it. A name that starts with a dot is refused. -/
def importModule (h : Host) (name : String) : Except Failure Host :=
  if name.startsWith "." then .error (.relativeImport name)
  else do
    let loaded ← (importChain name).foldlM h.importOne h.loaded
    pure { h with loaded }

/-- The object a module holds under a name: a described object, else a submodule imported so
far, else its own name under `__name__`. -/
def moduleAttr? (h : Host) (m attr : String) : Option Model :=
  let described := match h.body? m with
    | some (.objects es) => es.lookup attr
    | _ => none
  match described with
  | some o => some o
  | none =>
    if h.loaded.contains (m ++ "." ++ attr) then some (.module (m ++ "." ++ attr))
    else if attr == "__name__" then some (.plain (.str m))
    else none

end Host

namespace Host

/-- An attribute of a module: its class and its dictionary first, then what the module
holds, together with what importing set (no documentation, the spec it was imported by, and
its package's name), then the members of the class of modules. -/
def moduleObjectAttr? (h : Host) (m name : String) : Option Model :=
  let viaClass := builtinObjectAttr? (.builtin "module") (.module m) name
  if name == "__class__" || name == "__dict__" then viaClass
  else (h.moduleAttr? m name).orElse fun _ =>
    match name with
    | "__doc__" => some Model.nullObject
    | "__spec__" => some (.instanceOf ⟨"_frozen_importlib", "ModuleSpec"⟩)
    | "__package__" => some (Model.text m)
    | _ => viaClass

/-- Follows a chain of attribute names from an object. -/
def walk (h : Host) : Model → List String → Option Model
  | o, [] => some o
  | .module m, a :: rest => (h.moduleObjectAttr? m a).bind fun o => h.walk o rest
  | o, a :: rest => (o.attr? a).bind fun o' => h.walk o' rest

/-- Whether a dotted name is a class that can be imported. -/
def classExists (h : Host) (q : String) : Except Failure Bool :=
  if (Text.splitWhen (· == '.') q.toList).any (·.isEmpty) then .ok false
  else
    let (m, attr) := Text.splitLast '.' q
    if m.isEmpty then .ok false
    else
      match h.importModule m with
      | .error (.moduleNotFound (some missing)) =>
        if !missing.isEmpty && (m == missing || (missing ++ ".").isPrefixOf m) then .ok false
        else .error (.moduleNotFound (some missing))
      | .error e => .error e
      | .ok h' => .ok ((h'.moduleObjectAttr? m attr).map Model.isClass |>.getD false)

/-- The object an import path names: `module:attr.attr` or `module.attr`. -/
def loadObject (h : Host) (path : String) : Except Failure (Model × Host) := do
  let (m, attr) := if path.contains ':' then Text.splitFirst ':' path else Text.splitLast '.' path
  if m.isEmpty || attr.isEmpty then
    throw (.reflection ("'" ++ path ++ "' is not an import path; expected 'package.module:Name'."))
  let h' ← match h.importModule m with
    | .ok h' => .ok h'
    | .error (.relativeImport n) => .error (.relativeImport n)
    | .error e => .error (.reflection ("Cannot import module '" ++ m ++ "': " ++ e.message))
  match h'.walk (.module m) (attr.splitOn ".") with
  | some o => pure (o, h')
  | none => throw (.reflection ("Module '" ++ m ++ "' has no attribute '" ++ attr ++ "'."))

end Host

end CrudScaffold
