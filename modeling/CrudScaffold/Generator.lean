import CrudScaffold.Method.Descriptor
import CrudScaffold.Report

/-!
# Generation runs

A run generates the requested controller methods (all registered ones when none are named)
for a model and an optional parent. Each method gets a fresh descriptor, so methods do not
affect one another. A method that fails with one of the generator's own failures is recorded
and the run goes on; any other failure ends the run.
-/

namespace CrudScaffold

open CrudScaffold.Config CrudScaffold.Method

/-- Builds the descriptor registered under a name for a model, with an optional method name
(used when not empty) and an optional parent. -/
def buildMethod (settings : Settings) (name : String) (model : Model) (parent : Option Model)
    (api : Bool) (methodName : Option String) : Except Failure Descriptor := do
  let cls ← Method.resolve name api
  let d ← Descriptor.create cls settings model
  let d := match methodName with
    | some n => if n.isEmpty then d else { d with explicitName := some n }
    | none => d
  match parent with
  | some p => do
    let ((), d) ← (setParent p).attempt d
    pure d
  | none => pure d

/-- Generates the code of a descriptor; also gives the descriptor afterwards. -/
def generateMethod (oracle : Oracle) (d : Descriptor) :
    Except Failure (GeneratedMethod × Descriptor) := do
  let (code, d) ← (Method.code oracle).attempt d
  pure (⟨d.methodName, d.cls.path, code, d.namespaces, d.cls.isApi⟩, d)

/-- One requested method of a run: its generated method, or its own failure, is added to the
report, and the questions it asked to those asked so far. Any other failure ends the run. -/
def generateStep (settings : Settings) (oracle : Oracle) (model : Model) (parent : Option Model)
    (api : Bool) (acc : Report × List String) (name : String) : Except Failure (Report × List String) :=
  let (r, qs) := acc
  match buildMethod settings name model parent api none >>= generateMethod oracle with
  | .ok (m, d) => .ok ({ r with methods := r.methods ++ [m] }, qs ++ d.queries)
  | .error e =>
    if e.isOwn then .ok ({ r with failures := r.failures ++ [⟨name, e.kindName, e.message⟩] }, qs)
    else .error e

/-- A generation run: the report, and the questions asked of the oracle in order. -/
def generate (settings : Settings) (oracle : Oracle) (model : Model) (methods : List String)
    (parent : Option Model) (api : Bool) : Except Failure (Report × List String) :=
  let names := if methods.isEmpty then Method.available api else methods
  let start : Report := { model := model.typeQualname, parent := parent.map (·.typeQualname), isApi := api }
  names.foldlM (generateStep settings oracle model parent api) (start, [])

end CrudScaffold
