import CrudScaffold.Source.Imports

/-!
# Generation reports

What a generation run produced: for each requested method either the generated method or the
failure that stopped it, in request order. A report renders as one import block followed by
the code of every method that has any, separated by blank lines, and summarises itself as a
framed text. The run counts as a success when no method failed.
-/

namespace CrudScaffold

/-- The code and imports one controller method produced. -/
structure GeneratedMethod where
  methodName : String
  descriptor : String
  code : String
  namespaces : List String
  isApi : Bool
  deriving DecidableEq, Repr

namespace GeneratedMethod

/-- Whether the method produced no code. -/
def isEmpty (m : GeneratedMethod) : Bool := m.code.isEmpty

/-- How a generated method prints. -/
def repr (m : GeneratedMethod) : String :=
  "<GeneratedMethod " ++ m.methodName ++ " (" ++ toString m.namespaces.length ++ " imports)>"

end GeneratedMethod

/-- A method whose generation failed: its name, the kind of failure and its message. -/
structure MethodFailure where
  methodName : String
  kind : String
  message : String
  deriving DecidableEq, Repr

/-- The outcome of a generation run for one model. -/
structure Report where
  model : String
  parent : Option String := none
  isApi : Bool := false
  methods : List GeneratedMethod := []
  failures : List MethodFailure := []
  deriving DecidableEq, Repr

/-- `n` copies of a character. -/
def rule (c : Char) (n : Nat) : String := String.ofList (List.replicate n c)

/-- A text padded with spaces on the right to at least `w` characters. -/
def padRight (s : String) (w : Nat) : String := s ++ rule ' ' (w - s.length)

/-- A text padded with spaces on the left to at least `w` characters. -/
def padLeft (s : String) (w : Nat) : String := rule ' ' (w - s.length) ++ s

namespace Report

/-- Whether no method failed. -/
def success (r : Report) : Bool := r.failures.isEmpty

/-- Every import of the generated methods, in order, repetitions kept. -/
def namespaces (r : Report) : List String := r.methods.flatMap (·.namespaces)

/-- The import block of all generated methods. -/
def importBlock (r : Report) : String := Source.importBlock r.namespaces

/-- The import block and the code of every non-empty method, separated by blank lines, with a
final line break. -/
def render (r : Report) : String :=
  let block := r.importBlock
  "\n\n".intercalate ((if block.isEmpty then [] else [block]) ++
    (r.methods.filter (!·.isEmpty)).map (·.code)) ++ "\n"

/-- The line of a generated method in the summary. -/
def methodLine (m : GeneratedMethod) : String :=
  "    " ++ (if m.isEmpty then "⊘" else "✓") ++ " " ++ padRight m.methodName 16 ++ " " ++
    padLeft (toString m.namespaces.length) 3 ++ " import(s) " ++ padLeft "0.00" 7 ++ "ms"

/-- A framed summary of the run. -/
def summary (r : Report) : String :=
  let frame := rule '=' 60
  let head := [frame, "  ctrlgen — Generation Report", frame,
    "  Status:     " ++ (if r.success then "SUCCESS" else "FAILED"),
    "  Model:      " ++ r.model] ++
    (match r.parent with
      | some p => if p.isEmpty then [] else ["  Parent:     " ++ p]
      | none => []) ++
    ["  Controller: " ++ (if r.isApi then "API" else "web"),
     "  Methods:    " ++ toString r.methods.length,
     "  Time:       0.000s"]
  let methods := if r.methods.isEmpty then [] else rule '─' 60 :: r.methods.map methodLine
  let failures := if r.failures.isEmpty then []
    else [rule '─' 60, "  Failures (" ++ toString r.failures.length ++ "):"] ++
      r.failures.map fun f => "    ✗ " ++ f.methodName ++ ": " ++ f.kind ++ ": " ++ f.message
  "\n".intercalate (head ++ methods ++ failures ++ [frame])

end Report

end CrudScaffold
