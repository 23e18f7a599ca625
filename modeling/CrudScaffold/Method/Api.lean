import CrudScaffold.Method.Fragment
import CrudScaffold.Method.Kind

/-!
# API methods

API methods answer with response resources, `<Model><suffix>.model_validate(record)`, whose
class lives in the resource namespace under the root. Creating answers 201 and deleting 204.
-/

namespace CrudScaffold.Method

open CrudScaffold.Namespace

namespace Context

/-- The class of the response resource. -/
def resourceClass (c : Context) : String := c.names.modelClass ++ c.settings.api.resourceSuffix

/-- The qualified name of the response resource class. -/
def resourceImport (c : Context) : String :=
  qualify [fullNamespace c.settings.rootNamespace c.settings.api.resourceNamespace, c.resourceClass]

/-- A record turned into a response resource. -/
def toResource (c : Context) (v : String) : String := c.resourceClass ++ ".model_validate(" ++ v ++ ")"

/-- The code of an API method for an action, given its request class. -/
def apiCode (c : Context) (rc : RequestClass) : Action → Emit String
  | .index => do
    need "typing.List"
    let header := c.signature (c.routeParams false) ("List[" ++ c.resourceClass ++ "]")
    let parent ← c.parentLookup
    let load ← c.collectionLookup
    pure (c.render header (c.docstring ("List " ++ c.lowLabel ++ " records.") ++ parent ++ load ++
      ["return [" ++ c.toResource c.names.modelVar ++ " for " ++ c.names.modelVar ++ " in " ++
        c.names.collectionVar ++ "]"]))
  | .store => do
    let (params, decode) ← c.requestInput rc
    need "fastapi.Response"
    let header := c.signature (["response: Response"] ++ c.routeParams false ++ params) c.resourceClass
    let parent ← c.parentLookup
    pure (c.render header (c.docstring ("Create a " ++ c.lowLabel ++ ".") ++ parent ++ decode ++
      c.createRecord ++ c.persist true ++
      ["response.status_code = 201", "return " ++ c.toResource c.names.modelVar]))
  | .update => do
    let (params, decode) ← c.requestInput rc
    let header := c.signature (c.routeParams true ++ params) c.resourceClass
    let parent ← c.parentLookup
    let load ← c.recordLookup
    pure (c.render header (c.docstring ("Update a " ++ c.lowLabel ++ ".") ++ parent ++ load ++
      decode ++ c.assignFields ++ c.persist true ++ ["return " ++ c.toResource c.names.modelVar]))
  | .destroy => do
    need "fastapi.Response"
    let header := c.signature (c.routeParams true) "Response"
    let parent ← c.parentLookup
    let load ← c.recordLookup
    pure (c.render header (c.docstring ("Delete a " ++ c.lowLabel ++ ".") ++ parent ++ load ++
      ["await db.delete(" ++ c.names.modelVar ++ ")"] ++ c.persist false ++
      ["return Response(status_code=204)"]))
  | _ => do
    let header := c.signature (c.routeParams true) c.resourceClass
    let parent ← c.parentLookup
    let load ← c.recordLookup
    pure (c.render header (c.docstring ("Return a single " ++ c.lowLabel ++ ".") ++ parent ++ load ++
      ["return " ++ c.toResource c.names.modelVar]))

end Context

end CrudScaffold.Method
