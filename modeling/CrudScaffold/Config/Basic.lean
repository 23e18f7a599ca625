import CrudScaffold.Data.Value

/-!
# Generator settings

The settings of the generator come in four sections: where request classes live and how
they are named, how views are rendered, how API resources are named, and what every
controller method shares. Each setting has a name, and may have an alias that files use
instead (`apiNamespace` for `api_namespace`). A settings value can be written out as a
mapping keyed by aliases, and a setting can be looked up by a dotted key of names or
aliases, such as `request.classSuffix`.
-/

namespace CrudScaffold.Config

open CrudScaffold.Data

/-- How files may spell a setting: by its name or by its alias. -/
structure FieldName where
  name : String
  alias? : Option String := none
  deriving DecidableEq, Repr

/-- The key a setting is written under: its alias if it has one. -/
def FieldName.key (f : FieldName) : String := f.alias?.getD f.name

/-- Whether a key spells this setting. -/
def FieldName.spells (f : FieldName) (k : String) : Bool := k == f.name || f.alias? == some k

/-- Where custom request classes live and how they are named. -/
structure RequestSettings where
  webNamespace : String := "app.http.requests"
  apiNamespace : String := "app.http.requests.api"
  classSuffix : String := "Request"
  deriving DecidableEq, Repr

/-- How view-rendering methods find their templates. -/
structure ViewSettings where
  templates : String := "app.templating.templates"
  extension : String := ".html"
  deriving DecidableEq, Repr

/-- How API methods name their response resources. -/
structure ApiSettings where
  resourceNamespace : String := "app.http.resources"
  resourceSuffix : String := "Resource"
  deriving DecidableEq, Repr

/-- What every controller method shares. -/
structure ControllerSettings where
  sessionDependency : String := "app.database.get_db"
  docstrings : Bool := true
  indentSize : Nat := 4
  deriving DecidableEq, Repr

/-- All settings of the generator. -/
structure Settings where
  rootNamespace : String := ""
  request : RequestSettings := {}
  view : ViewSettings := {}
  api : ApiSettings := {}
  controller : ControllerSettings := {}
  deriving DecidableEq, Repr

namespace RequestSettings
/-- The name of the section in messages. -/
def className : String := "RequestConfig"
def namespaceField : FieldName := ⟨"namespace", none⟩
def apiNamespaceField : FieldName := ⟨"api_namespace", some "apiNamespace"⟩
def classSuffixField : FieldName := ⟨"class_suffix", some "classSuffix"⟩
/-- The settings of the section with how they are spelled, in order. -/
def fields (r : RequestSettings) : List (FieldName × Value) :=
  [(namespaceField, .str r.webNamespace), (apiNamespaceField, .str r.apiNamespace),
   (classSuffixField, .str r.classSuffix)]
end RequestSettings

namespace ViewSettings
def className : String := "ViewConfig"
def templatesField : FieldName := ⟨"templates", none⟩
def extensionField : FieldName := ⟨"extension", none⟩
def fields (v : ViewSettings) : List (FieldName × Value) :=
  [(templatesField, .str v.templates), (extensionField, .str v.extension)]
end ViewSettings

namespace ApiSettings
def className : String := "ApiConfig"
def resourceNamespaceField : FieldName := ⟨"resource_namespace", some "resourceNamespace"⟩
def resourceSuffixField : FieldName := ⟨"resource_suffix", some "resourceSuffix"⟩
def fields (a : ApiSettings) : List (FieldName × Value) :=
  [(resourceNamespaceField, .str a.resourceNamespace), (resourceSuffixField, .str a.resourceSuffix)]
end ApiSettings

namespace ControllerSettings
def className : String := "ControllerConfig"
def sessionDependencyField : FieldName := ⟨"session_dependency", some "sessionDependency"⟩
def docstringsField : FieldName := ⟨"generate_docstrings", some "generateDocstrings"⟩
def indentSizeField : FieldName := ⟨"indent_size", some "indentSize"⟩
def fields (c : ControllerSettings) : List (FieldName × Value) :=
  [(sessionDependencyField, .str c.sessionDependency), (docstringsField, .bool c.docstrings),
   (indentSizeField, .int c.indentSize)]
end ControllerSettings

/-- A mapping from the keys of settings to their values. -/
def dumpFields (fs : List (FieldName × Value)) : Value :=
  .dict (fs.map fun (f, v) => (.str f.key, v))

/-- A section of settings: its name in messages and its fields. -/
structure Section where
  className : String
  fields : List (FieldName × Value)

/-- The section as a mapping keyed by aliases. -/
def Section.dump (s : Section) : Value := dumpFields s.fields

namespace Settings

def className : String := "GeneratorConfig"
def rootNamespaceField : FieldName := ⟨"root_namespace", some "rootNamespace"⟩
def requestField : FieldName := ⟨"request", none⟩
def viewField : FieldName := ⟨"view", none⟩
def apiField : FieldName := ⟨"api", none⟩
def controllerField : FieldName := ⟨"controller", none⟩

/-- The four sections, with how they are spelled. -/
def sections (s : Settings) : List (FieldName × Section) :=
  [(requestField, ⟨RequestSettings.className, s.request.fields⟩),
   (viewField, ⟨ViewSettings.className, s.view.fields⟩),
   (apiField, ⟨ApiSettings.className, s.api.fields⟩),
   (controllerField, ⟨ControllerSettings.className, s.controller.fields⟩)]

/-- All settings as a mapping keyed by aliases, sections as nested mappings. -/
def dump (s : Settings) : Value :=
  .dict ((.str rootNamespaceField.key, .str s.rootNamespace) ::
    s.sections.map fun (f, sec) => (.str f.key, sec.dump))

/-- What a dotted key finds: a setting's value, or a whole section. -/
inductive Found where
  | value (v : Value)
  | section (s : Section)

/-- The setting or section a dotted key of names or aliases spells. A key that leaves the
settings, or goes on past a setting, finds nothing. -/
def get? (s : Settings) (key : String) : Option Found :=
  match key.splitOn "." with
  | [k] =>
    if rootNamespaceField.spells k then some (.value (.str s.rootNamespace))
    else (s.sections.find? (·.1.spells k)).map fun (_, sec) => .section sec
  | [k, k'] => do
    let (_, sec) ← s.sections.find? (·.1.spells k)
    let (_, v) ← sec.fields.find? (·.1.spells k')
    pure (.value v)
  | _ => none

end Settings

end CrudScaffold.Config
