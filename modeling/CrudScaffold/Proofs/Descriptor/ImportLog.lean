import CrudScaffold.Proofs.Descriptor.Calls

/-!
# The imports of a descriptor only grow

The imports a descriptor gathers only ever grow at their end: nothing is removed, reordered or
merged. After any run of calls they are the imports the descriptor started with, followed by
what each call appended, in the order of the calls (`namespaces_callAll`). What a call that
returns normally appends is `Call.imports`:

* attaching a parent appends the parent's qualified name, on every call, even when it is
  already there;
* asking for the request class appends the queried name exactly when the oracle answered
  that the class exists;
* generating appends nothing for a method without a way to generate, and otherwise the imports
  of preparing followed by those of the template;
* preparing appends the imports of its base, and adding names appends those names;
* every other call appends nothing.

A call that fails keeps what it appended before failing (`Call.failedImports`): generating
prepares the method before its template asks the oracle, so when the oracle fails the imports
of preparing stay; no other call appends anything before it fails.
-/

namespace CrudScaffold.Method

namespace Descriptor

/-- The queried name, when the oracle answers that the custom request class exists. -/
def foundRequest (o : Oracle) (d : Descriptor) : List String :=
  match o d.requestQuery with
  | .ok true => [d.requestQuery]
  | _ => []

/-- The imports the template adds when it returns. -/
def strategyImports (o : Oracle) (d : Descriptor) : List String :=
  match d.strategy o with
  | .ok g => g.namespaces
  | .error _ => []

end Descriptor

/-- The imports a call appends when it returns normally. -/
def Call.imports (o : Oracle) (d : Descriptor) : Call → List String
  | .getCode => if d.cls.mode = .none then [] else d.prepImports ++ d.strategyImports o
  | .setParent m => [m.qualifiedName]
  | .getRequestClass => d.foundRequest o
  | .beforeGenerate => d.prepImports
  | .addNamespace qs => qs
  | _ => []

/-- The imports a call appends before it fails: those of preparing, for generating. -/
def Call.failedImports (d : Descriptor) : Call → List String
  | .getCode => d.prepImports
  | _ => []

/-- The imports a run of calls appends: call by call, what each call appends to the descriptor
it is made on, whether it returns normally or fails. -/
def importLog (o : Oracle) : Descriptor → List Call → List String
  | _, [] => []
  | d, c :: cs =>
    (if c.returns o d then c.imports o d else c.failedImports d) ++ importLog o (d.call o c) cs

/-- Reading a model keeps its qualified name. -/
theorem qualifiedName_of_introspect {m : Model} {p : ModelInfo} (h : m.introspect = .ok p) :
    p.qualifiedName = m.qualifiedName := by
  unfold Model.introspect at h
  cases ht : m.table with
  | error e => simp [ht, bind, Except.bind] at h
  | ok t =>
    simp only [ht, bind, Except.bind, pure, Except.pure, Except.ok.injEq] at h
    rw [← h]

section Step

variable (o : Oracle) (d : Descriptor)

/-- Generating code that returns appends the imports of preparing and then those of the
template. -/
theorem namespaces_call_getCode (h : Call.getCode.returns o d) :
    (d.call o .getCode).namespaces = d.namespaces ++ Call.getCode.imports o d := by
  rw [Descriptor.call_getCode, Call.imports]
  by_cases hm : d.cls.mode = .none
  · simp [hm]
  · -- the call returned, so the template ran
    obtain ⟨g, hg⟩ := d.strategy_ok_of_returns o h hm
    simp [hm, Descriptor.afterCode, Descriptor.strategyImports, hg]

theorem namespaces_call_setParent (m : Model) (h : (Call.setParent m).returns o d) :
    (d.call o (.setParent m)).namespaces = d.namespaces ++ [m.qualifiedName] := by
  rw [Descriptor.call_setParent]
  cases hi : m.introspect with
  | error e => simp [Call.returns, hi, Except.isOk, Except.toBool] at h
  | ok p => simp only [qualifiedName_of_introspect hi]

theorem namespaces_call_getRequestClass :
    (d.call o .getRequestClass).namespaces = d.namespaces ++ d.foundRequest o := by
  rw [Descriptor.call_getRequestClass, Descriptor.foundRequest]
  cases ho : o d.requestQuery with
  | error e => simp [Descriptor.request, ho, Functor.map, Except.map]
  | ok found => cases found <;> simp [Descriptor.request, ho, Functor.map, Except.map]

/-- A call that fails appends what it appended before failing. -/
theorem namespaces_call_of_returns_false {c : Call} (h : c.returns o d = false) :
    (d.call o c).namespaces = d.namespaces ++ c.failedImports d := by
  rw [Descriptor.call_of_returns_false o d h]
  cases c <;> simp [Call.failedImports, Descriptor.afterFailure]

/-- One call: the imports grow by what the call appends when it returns normally, and by what
it appended before failing when it fails. -/
theorem namespaces_call (c : Call) : (d.call o c).namespaces =
    d.namespaces ++ if c.returns o d then c.imports o d else c.failedImports d := by
  cases hr : c.returns o d
  · rw [if_neg (by simp), namespaces_call_of_returns_false o d hr]
  · rw [if_pos rfl]
    cases c with
    | getCode => exact namespaces_call_getCode o d hr
    | setParent m => exact namespaces_call_setParent o d m hr
    | getRequestClass => exact namespaces_call_getRequestClass o d
    | beforeGenerate => simp [Call.imports]
    | addNamespace qs => rfl
    | _ => simp [Call.imports]

end Step

/-- After any run of calls, the imports are those the descriptor started with followed by what
each call appended, whether it returned normally or failed, in the order of the calls. -/
theorem namespaces_callAll (o : Oracle) (d : Descriptor) (cs : List Call) :
    (d.callAll o cs).namespaces = d.namespaces ++ importLog o d cs := by
  induction cs generalizing d with
  | nil => simp [importLog]
  | cons c cs ih => rw [Descriptor.callAll_cons, ih, namespaces_call, importLog, List.append_assoc]

/-- Not only the calls that return append: preparing appends the imports of the method's base
when called by itself, and generating whose oracle fails keeps those imports, with its question,
although it did not return. -/
theorem failed_generation_keeps_preparation :
    (postStore.call postRequests .beforeGenerate).namespaces =
      ["app.models.Post", "fastapi.Depends", "sqlalchemy.ext.asyncio.AsyncSession",
        "app.database.get_db", "fastapi.Request"] ∧
    Call.getCode.returns failsOnPublish (postStore.call failsOnPublish (.setMethodName "publish")) =
      false ∧
    (postStore.callAll failsOnPublish [.setMethodName "publish", .getCode]).namespaces =
      ["app.models.Post", "fastapi.Depends", "sqlalchemy.ext.asyncio.AsyncSession",
        "app.database.get_db", "fastapi.Request"] ∧
    (postStore.callAll failsOnPublish [.setMethodName "publish", .getCode]).queries =
      ["app.http.requests.Posts.PublishRequest"] :=
  ⟨rfl, rfl, rfl, rfl⟩

end CrudScaffold.Method
