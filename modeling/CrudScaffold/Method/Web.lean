import CrudScaffold.Method.Fragment
import CrudScaffold.Method.Kind

/-!
# Web methods

Web methods answer with HTML. The four page methods render the template
`<table>/<method><extension>` with the records they load; the three writing methods save
through the session and redirect (303) to the named route `<table>.show` or `<table>.index`.
-/

namespace CrudScaffold.Method

open CrudScaffold.Namespace

namespace Context

/-- The name the template renderer is imported as. -/
def templatesName (c : Context) : String := (Text.splitLast '.' c.settings.view.templates).2

/-- The template a page renders. -/
def viewName (c : Context) : String :=
  c.names.table ++ "/" ++ c.methodName ++ c.settings.view.extension

/-- Adds an entry to a template context; an existing key keeps its place and takes the value. -/
def addEntry (ctx : List (String × String)) (k v : String) : List (String × String) :=
  if ctx.any (·.1 == k) then ctx.map fun (k', v') => if k' == k then (k', v) else (k', v')
  else ctx ++ [(k, v)]

/-- Renders the page's template with its context, to which the parent is added. -/
def templateResponse (c : Context) (ctx : List (String × String)) : Emit (List String) := do
  need c.settings.view.templates
  let ctx := match c.names.parent with
    | some p => addEntry ctx p.var p.var
    | none => ctx
  let items := ", ".intercalate (ctx.map fun (k, v) => "\"" ++ k ++ "\": " ++ v)
  pure ["return " ++ c.templatesName ++ ".TemplateResponse(", c.unit ++ "request,",
    c.unit ++ "\"" ++ c.viewName ++ "\",", c.unit ++ "\x7b" ++ items ++ "\x7d,", ")"]

/-- Redirects to a named route of the table, with the parent's and the record's keys. -/
def redirectTo (c : Context) (route : String) (withKey : Bool) : List String :=
  let args := ["\"" ++ c.names.table ++ "." ++ route ++ "\""] ++
    ((c.names.parent.map fun p => [spell p.key ++ "=" ++ p.var ++ ".id"]).getD []) ++
    (if withKey then [c.names.key ++ "=" ++ c.names.modelVar ++ ".id"] else [])
  ["return RedirectResponse(", c.unit ++ "request.url_for(" ++ ", ".intercalate args ++ "),",
    c.unit ++ "status_code=303,", ")"]

/-- The header of a page method. -/
def viewHeader (c : Context) (withKey : Bool) : Emit (List String) := do
  need "fastapi.responses.HTMLResponse"
  pure (c.signature (["request: Request"] ++ c.routeParams withKey) "HTMLResponse")

/-- The header of a writing method. -/
def redirectHeader (c : Context) (withKey : Bool) (extra : List String) : Emit (List String) := do
  need "fastapi.responses.RedirectResponse"
  pure (c.signature (["request: Request"] ++ c.routeParams withKey ++ extra) "RedirectResponse")

/-- The code of a web method for an action, given its request class. -/
def webCode (c : Context) (rc : RequestClass) : Action → Emit String
  | .index => do
    let header ← c.viewHeader false
    let parent ← c.parentLookup
    let load ← c.collectionLookup
    let answer ← c.templateResponse [(c.names.collectionVar, c.names.collectionVar)]
    pure (c.render header (c.docstring ("Render the list of " ++ c.lowLabel ++ " records.") ++
      parent ++ load ++ answer))
  | .display => do
    let header ← c.viewHeader true
    let parent ← c.parentLookup
    let load ← c.recordLookup
    let answer ← c.templateResponse [(c.names.modelVar, c.names.modelVar)]
    pure (c.render header (c.docstring ("Render a single " ++ c.lowLabel ++ ".") ++
      parent ++ load ++ answer))
  | .create => do
    let header ← c.viewHeader false
    let parent ← c.parentLookup
    let answer ← c.templateResponse []
    pure (c.render header (c.docstring ("Render the form to create a " ++ c.lowLabel ++ ".") ++
      parent ++ answer))
  | .edit => do
    let header ← c.viewHeader true
    let parent ← c.parentLookup
    let load ← c.recordLookup
    let answer ← c.templateResponse [(c.names.modelVar, c.names.modelVar)]
    pure (c.render header (c.docstring ("Render the form to edit a " ++ c.lowLabel ++ ".") ++
      parent ++ load ++ answer))
  | .store => do
    let (params, decode) ← c.requestInput rc
    let header ← c.redirectHeader false params
    let parent ← c.parentLookup
    pure (c.render header (c.docstring ("Create a " ++ c.lowLabel ++ " and redirect to it.") ++
      parent ++ decode ++ c.createRecord ++ c.persist true ++ c.redirectTo "show" true))
  | .update => do
    let (params, decode) ← c.requestInput rc
    let header ← c.redirectHeader true params
    let parent ← c.parentLookup
    let load ← c.recordLookup
    pure (c.render header (c.docstring ("Update a " ++ c.lowLabel ++ " and redirect to it.") ++
      parent ++ load ++ decode ++ c.assignFields ++ c.persist true ++ c.redirectTo "show" true))
  | .destroy => do
    let header ← c.redirectHeader true []
    let parent ← c.parentLookup
    let load ← c.recordLookup
    pure (c.render header
      (c.docstring ("Delete a " ++ c.lowLabel ++ " and redirect to the list.") ++
        parent ++ load ++ ["await db.delete(" ++ c.names.modelVar ++ ")"] ++ c.persist false ++
        c.redirectTo "index" false))

end Context

end CrudScaffold.Method
