import CrudScaffold.Config.Basic
import CrudScaffold.Method.Names
import CrudScaffold.Namespace
import CrudScaffold.Source.Indent
import CrudScaffold.Text.Split
import CrudScaffold.Text.Case

/-!
# Code fragments

The pieces every generated method is built from. A method is an `async def` taking the
session through `Depends`; its body loads the parent record, selects records, reads the
submitted data and saves. Building a piece also records the imports it needs, in the order
they are needed: `Emit` is that recording.
-/

namespace CrudScaffold.Method

open CrudScaffold.Config CrudScaffold.Namespace

/-- Building code while recording the qualified names it needs imported. -/
abbrev Emit := StateM (List String)

/-- Records a qualified name to import. -/
def need (q : String) : Emit Unit := modify (· ++ [q])

/-- What a template builds from. -/
structure Context where
  names : ResourceNames
  settings : Settings
  methodName : String
  api : Bool

namespace Context

/-- One level of indentation. -/
def unit (c : Context) : String := String.ofList (List.replicate c.settings.controller.indentSize ' ')

/-- A text that may be absent, as generated code spells it. -/
def spell (t : Option String) : String := t.getD "None"

/-- The name the session dependency is imported as. -/
def sessionName (c : Context) : String := (Text.splitLast '.' c.settings.controller.sessionDependency).2

/-- The header of the method: one parameter per line, `self` first and the session last. -/
def signature (c : Context) (params : List String) (returns : String) : List String :=
  ["async def " ++ c.methodName ++ "(", c.unit ++ "self,"] ++ params.map (c.unit ++ · ++ ",") ++
    [c.unit ++ "db: AsyncSession = Depends(" ++ c.sessionName ++ "),", ") -> " ++ returns ++ ":"]

/-- The path parameters: the parent's key first, then the record's key. -/
def routeParams (c : Context) (withKey : Bool) : List String :=
  (c.names.parent.map fun p => [spell p.key ++ ": int"]).getD [] ++
    (if withKey then [c.names.key ++ ": int"] else [])

/-- A one-line docstring, when docstrings are wanted. -/
def docstring (c : Context) (text : String) : List String :=
  if c.settings.controller.docstrings then ["\"\"\"" ++ text ++ "\"\"\""] else []

/-- The label in lower case, as docstrings use it. -/
def lowLabel (c : Context) : String := Text.lower c.names.label

/-- Loads the parent record and answers 404 when it is missing. -/
def parentLookup (c : Context) : Emit (List String) :=
  match c.names.parent with
  | none => pure []
  | some p => do
    need "fastapi.HTTPException"
    pure [p.var ++ " = await db.get(" ++ p.className ++ ", " ++ spell p.key ++ ")",
      "if " ++ p.var ++ " is None:",
      c.unit ++ "raise HTTPException(status_code=404, detail=\"" ++ Naming.title p.var ++
        " not found.\")"]

/-- The select statement, by key or not, scoped to the parent. -/
def selectStatement (c : Context) (byKey : Bool) : Emit (List String) := do
  need "sqlalchemy.select"
  let m := c.names.modelClass
  let byKeyPart := if byKey then ".where(" ++ m ++ ".id == " ++ c.names.key ++ ")" else ""
  let parentPart := match c.names.parent with
    | some p => ".where(" ++ m ++ "." ++ spell p.key ++ " == " ++ p.var ++ ".id)"
    | none => ""
  pure ["stmt = select(" ++ m ++ ")" ++ byKeyPart ++ parentPart]

/-- Loads the record of the path key and answers 404 when it is missing. -/
def recordLookup (c : Context) : Emit (List String) := do
  need "fastapi.HTTPException"
  let stmt ← c.selectStatement true
  let v := c.names.modelVar
  pure (stmt ++ [v ++ " = (await db.execute(stmt)).scalar_one_or_none()",
    "if " ++ v ++ " is None:",
    c.unit ++ "raise HTTPException(status_code=404, detail=\"" ++ c.names.label ++ " not found.\")"])

/-- Loads all records. -/
def collectionLookup (c : Context) : Emit (List String) := do
  let stmt ← c.selectStatement false
  pure (stmt ++ [c.names.collectionVar ++ " = (await db.execute(stmt)).scalars().all()"])

/-- The parameters and lines that read the submitted data into `data`: a typed `payload` for
a custom request class, else the raw request (a form for web, JSON for API). A class that is
named like the generic one counts as the generic one. -/
def requestInput (c : Context) (rc : RequestClass) : Emit (List String × List String) :=
  if rc.name != fallbackRequestClass then
    pure (["payload: " ++ rc.name], ["data = payload.model_dump(exclude_unset=True)"])
  else if c.api then do
    need "fastapi.Request"
    pure (["request: Request"], ["data = await request.json()"])
  else pure ([], ["data = dict(await request.form())"])

/-- Commits, and reloads the record unless told not to. -/
def persist (c : Context) (refresh : Bool) : List String :=
  ["await db.commit()"] ++ (if refresh then ["await db.refresh(" ++ c.names.modelVar ++ ")"] else [])

/-- Creates the record from `data`, tied to its parent. -/
def createRecord (c : Context) : List String :=
  let v := c.names.modelVar
  [v ++ " = " ++ c.names.modelClass ++ "(**data)"] ++
    ((c.names.parent.map fun p => [v ++ "." ++ spell p.key ++ " = " ++ p.var ++ ".id"]).getD []) ++
    ["db.add(" ++ v ++ ")"]

/-- Copies the fields of `data` onto the record. -/
def assignFields (c : Context) : List String :=
  ["for field, value in data.items():", c.unit ++ "setattr(" ++ c.names.modelVar ++ ", field, value)"]

/-- The method as a class member: the body one level in, the whole one level more. -/
def render (c : Context) (header body : List String) : String :=
  Source.indent ("\n".intercalate (header ++ body.map (c.unit ++ ·))) 1 c.settings.controller.indentSize

end Context

end CrudScaffold.Method
