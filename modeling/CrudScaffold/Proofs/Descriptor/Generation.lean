import CrudScaffold.Method.Descriptor

/-!
# What generating code does

Generating the code of a method (`code`) prepares it and then runs its template. This module
says once, for every descriptor, what a run of `code` gives (`code_run`); statements about
sequences of calls cite it and never open the template machinery again.

* `Descriptor.prepare` is what preparing does: a resource method gets identifiers computed
  afresh from its model and parent, and the imports of its base (`Descriptor.prepImports`);
  a bare method is left as it is.
* `Descriptor.request` is how a template finds the class it reads its input as. A template
  that reads input asks the oracle once about the custom class of the method, and registers
  the class for import when it exists; otherwise it falls back to the generic class.
* `Descriptor.strategy` is the whole outcome of the template: its code, the imports it adds
  after preparing, and the questions it asks.

`code_run`: a method without a way to generate gives the empty text and changes nothing. Any
other method gives the code of its strategy, and its descriptor gains the identifiers of
preparing, the imports of preparing followed by those of the template, and the template's
questions. It fails exactly when the strategy does, and the descriptor then keeps its
preparation and the question the template asked (`Descriptor.afterFailure`).
-/

namespace CrudScaffold.Method

open CrudScaffold.Config CrudScaffold.Namespace

/-- Whether the template of a class asks for a request class: the registered actions that read
submitted data do, and so does the strategy of every custom class. -/
def MethodClass.readsRequest : MethodClass → Bool
  | .web a | .api a => a.readsInput
  | .custom _ _ _ _ _ => true

/-- What the template of a method gives: its code, the imports it adds in order, and the
questions it asks the oracle. -/
structure Generation where
  code : String
  namespaces : List String
  queries : List String

namespace Descriptor

/-! ## Preparing -/

/-- The identifiers of the model and the current parent, computed afresh. -/
def fresh (d : Descriptor) : ResourceNames := ResourceNames.of d.model d.parent

/-- The imports that preparing adds: those of the base for a resource method, none else. -/
def prepImports (d : Descriptor) : List String :=
  if d.cls.base.isResource then baseImports d d.fresh else []

/-- The descriptor once prepared. -/
def prepare (d : Descriptor) : Descriptor :=
  if d.cls.base.isResource then
    { d with names? := some d.fresh, namespaces := d.namespaces ++ baseImports d d.fresh }
  else d

section Prepare

variable (d : Descriptor)

@[simp] theorem prepare_cls : d.prepare.cls = d.cls := by unfold prepare; split <;> rfl

@[simp] theorem prepare_settings : d.prepare.settings = d.settings := by
  unfold prepare; split <;> rfl

@[simp] theorem prepare_model : d.prepare.model = d.model := by unfold prepare; split <;> rfl

@[simp] theorem prepare_parent : d.prepare.parent = d.parent := by unfold prepare; split <;> rfl

@[simp] theorem prepare_explicitName : d.prepare.explicitName = d.explicitName := by
  unfold prepare; split <;> rfl

@[simp] theorem prepare_requestFolder : d.prepare.requestFolder = d.requestFolder := by
  unfold prepare; split <;> rfl

@[simp] theorem prepare_queries : d.prepare.queries = d.queries := by
  unfold prepare; split <;> rfl

@[simp] theorem prepare_methodName : d.prepare.methodName = d.methodName := by
  simp only [methodName, prepare_explicitName, prepare_cls]

@[simp] theorem prepare_namespaces : d.prepare.namespaces = d.namespaces ++ d.prepImports := by
  unfold prepare prepImports; split <;> simp

@[simp] theorem prepare_fresh : d.prepare.fresh = d.fresh := by simp [fresh]

@[simp] theorem prepare_context (n : ResourceNames) : d.prepare.context n = d.context n := by
  simp [context]

@[simp] theorem context_settings (n : ResourceNames) : (d.context n).settings = d.settings := rfl

/-- Preparing a resource method leaves it with fresh identifiers. -/
theorem prepare_names? (h : d.cls.base.isResource) : d.prepare.names? = some d.fresh := by
  simp [prepare, h]

end Prepare

/-! ## The request class -/

/-- The class name a custom request class of the method would have. -/
def candidate (d : Descriptor) : String :=
  (requestCandidate d.methodName d.requestFolder d.settings.request.classSuffix).1

/-- The question asked of the oracle: the qualified name the custom request class of the
method would have in its request folder. -/
def requestQuery (d : Descriptor) : String :=
  (requestCandidate d.methodName d.requestFolder d.settings.request.classSuffix).2

/-- The request class a template reads its input as, with the imports and the questions that
finding it adds. A template that does not read input asks nothing and takes the generic class. -/
def request (o : Oracle) (d : Descriptor) (reads : Bool) :
    Except Failure (RequestClass × List String × List String) :=
  if reads then
    (fun found =>
      if found then (⟨d.candidate, some d.requestQuery⟩, [d.requestQuery], [d.requestQuery])
      else (⟨fallbackRequestClass, none⟩, [], [d.requestQuery])) <$> o d.requestQuery
  else .ok (⟨fallbackRequestClass, none⟩, [], [])

/-- Given the oracle's answer, looking for the request class takes the custom class exactly when
the template reads input and the class exists, registers its import then, and asks its question
whenever the template reads input. -/
theorem request_of_answer (d : Descriptor) {o : Oracle} {b : Bool} (hb : o d.requestQuery = .ok b)
    (reads : Bool) :
    d.request o reads = .ok (chooseRequest d.candidate d.requestQuery (reads && b),
      if reads && b then [d.requestQuery] else [], if reads then [d.requestQuery] else []) := by
  cases reads <;> cases b <;> simp [request, hb, chooseRequest, Functor.map, Except.map]

@[simp] theorem prepare_request (d : Descriptor) (o : Oracle) (reads : Bool) :
    d.prepare.request o reads = d.request o reads := by
  simp [request, requestQuery, candidate]

/-! ## The template -/

/-- The code of the template of the method and the names it records, given the request class
it reads its input as. A custom class renders its mode, method name and request class. -/
def template (d : Descriptor) (rc : RequestClass) : String × List String :=
  match d.cls with
  | .web a => ((d.context d.fresh).webCode rc a).run []
  | .api a => ((d.context d.fresh).apiCode rc a).run []
  | .custom _ _ _ _ _ =>
    ((if d.cls.mode == .view then "view:" else "redirect:") ++ d.methodName ++ ":" ++ rc.name, [])

/-- What the template of the method gives: the imports are those of the request class
followed by those the template records. -/
def strategy (o : Oracle) (d : Descriptor) : Except Failure Generation :=
  (fun (rc, is, qs) => ⟨(d.template rc).1, is ++ (d.template rc).2, qs⟩) <$>
    d.request o d.cls.readsRequest

/-- The template fails exactly when it asks the oracle and the oracle fails. -/
theorem strategy_isOk (o : Oracle) (d : Descriptor) :
    (d.strategy o).isOk = (!d.cls.readsRequest || (o d.requestQuery).isOk) := by
  unfold strategy request
  cases d.cls.readsRequest
  · rfl
  · cases o d.requestQuery <;> rfl

/-- The descriptor after its code was generated with outcome `g`. -/
def afterCode (d : Descriptor) (g : Generation) : Descriptor :=
  { d with names? := d.prepare.names?, namespaces := d.namespaces ++ d.prepImports ++ g.namespaces,
           queries := d.queries ++ g.queries }

/-- The descriptor after generating failed: prepared, and having asked the question about its
request class, since the oracle fails only when asked. -/
def afterFailure (d : Descriptor) : Descriptor :=
  { d with names? := d.prepare.names?, namespaces := d.namespaces ++ d.prepImports,
           queries := d.queries ++ [d.requestQuery] }

end Descriptor

/-! ## One run of code -/

section Runs

variable {α β : Type} (d : Descriptor)

theorem Op.run_pure (a : α) : (pure a : Op α).run d = .ok a d := rfl

theorem Op.run_get_bind (f : Descriptor → Op α) : (get >>= f).run d = (f d).run d := rfl

theorem Op.run_modify_bind (g : Descriptor → Descriptor) (f : PUnit → Op α) :
    (modify g >>= f).run d = (f ()).run (g d) := rfl

theorem Op.run_bind_ok {x : Op α} {f : α → Op β} {a : α} {d' : Descriptor}
    (h : x.run d = .ok a d') : (x >>= f).run d = (f a).run d' := by
  simp only [EStateM.run] at h ⊢
  simp only [bind, EStateM.bind, h]

theorem Op.run_bind_error {x : Op α} {f : α → Op β} {e : Failure} {d' : Descriptor}
    (h : x.run d = .error e d') : (x >>= f).run d = .error e d' := by
  simp only [EStateM.run] at h ⊢
  simp only [bind, EStateM.bind, h]

theorem Op.run_ofExcept (x : Except Failure α) :
    (MonadExcept.ofExcept x : Op α).run d =
      match x with
      | .ok a => .ok a d
      | .error e => .error e d := by
  cases x <;> rfl

theorem Op.run_map (f : α → β) (x : Op α) :
    (f <$> x).run d =
      match x.run d with
      | .ok a d' => .ok (f a) d'
      | .error e d' => .error e d' := by
  simp only [EStateM.run, Functor.map, EStateM.map]
  cases x d <;> rfl

end Runs

theorem beforeGenerate_run (d : Descriptor) : beforeGenerate.run d = .ok () d.prepare := by
  rw [beforeGenerate, Op.run_get_bind]
  unfold Descriptor.prepare
  by_cases h : d.cls.base.isResource
  · rw [if_pos h, if_pos h]
    rfl
  · rw [if_neg h, if_neg h]
    rfl

/-- Looking for the custom request class records the question before the oracle answers, and
then registers what `Descriptor.request` gives. -/
theorem resolveRequest_run (o : Oracle) (d : Descriptor) :
    (resolveRequest o).run d =
      match d.request o true with
      | .ok (rc, is, qs) =>
        .ok rc { d with namespaces := d.namespaces ++ is, queries := d.queries ++ qs }
      | .error e => .error e { d with queries := d.queries ++ [d.requestQuery] } := by
  rw [resolveRequest, Op.run_get_bind, Descriptor.request, if_pos rfl]
  simp only [Descriptor.requestQuery, Descriptor.candidate]
  generalize requestCandidate d.methodName d.requestFolder d.settings.request.classSuffix = q
  obtain ⟨c, p⟩ := q
  dsimp only
  rw [Op.run_modify_bind]
  -- the question is recorded; what follows depends on the oracle's answer
  cases hp : o p with
  | error e => exact Op.run_bind_error _ (by rw [Op.run_ofExcept])
  | ok found =>
    rw [Op.run_bind_ok _ (by rw [Op.run_ofExcept])]
    -- an absent class registers no import, so the empty list of imports is dropped first
    cases found <;> simp [Functor.map, Except.map] <;> rfl

theorem requestOf_run (o : Oracle) (a : Action) (d : Descriptor) :
    (code.requestOf o a).run d =
      match d.request o a.readsInput with
      | .ok (rc, is, qs) =>
        .ok rc { d with namespaces := d.namespaces ++ is, queries := d.queries ++ qs }
      | .error e => .error e { d with queries := d.queries ++ [d.requestQuery] } := by
  unfold code.requestOf
  cases a.readsInput
  · -- a template that reads no input takes the generic class and records nothing
    simp [Descriptor.request]
  · exact resolveRequest_run o d

theorem requestClass_run (o : Oracle) (d : Descriptor) :
    (requestClass o).run d =
      match d.request o true with
      | .ok (rc, is, qs) =>
        .ok rc.name { d with namespaces := d.namespaces ++ is, queries := d.queries ++ qs }
      | .error e => .error e { d with queries := d.queries ++ [d.requestQuery] } := by
  rw [requestClass, Op.run_map, resolveRequest_run]
  rcases d.request o true with _ | ⟨rc, is, qs⟩ <;> rfl

theorem emit_run (t : Emit String) (d : Descriptor) :
    (emit t).run d = .ok (t.run []).1 { d with namespaces := d.namespaces ++ (t.run []).2 } :=
  rfl

/-- What a run of `code` gives, for every descriptor and every oracle. A template fails only
when the oracle does, and then the descriptor keeps its preparation and the question asked. -/
theorem code_run (o : Oracle) (d : Descriptor) :
    (code o).run d = if d.cls.mode = .none then .ok "" d else
      match d.strategy o with
      | .ok g => .ok g.code (d.afterCode g)
      | .error e => .error e d.afterFailure := by
  rw [code, Op.run_get_bind]
  cases hm : d.cls.mode with
  | none => rfl
  | view | redirect =>
    simp only [reduceCtorEq, if_false]
    rw [Op.run_bind_ok _ (beforeGenerate_run d), Op.run_get_bind]
    -- a registered method is a resource method, so preparing gives it its identifiers and the
    -- match of `code` takes its template; a custom class takes the last branch in any case
    cases hc : d.cls with
    | web a | api a =>
      have hn := d.prepare_names? (by simp [hc, MethodClass.base, Base.isResource])
      simp only [Descriptor.prepare_cls, hc, hn, Descriptor.strategy, MethodClass.readsRequest]
      cases hr : d.request o a.readsInput with
      | error e =>
        rw [Op.run_bind_error _ (by rw [requestOf_run, Descriptor.prepare_request, hr])]
        simp [Functor.map, Except.map, Descriptor.afterFailure, Descriptor.requestQuery]
      | ok r =>
        obtain ⟨rc, is, qs⟩ := r
        rw [Op.run_bind_ok _ (by rw [requestOf_run, Descriptor.prepare_request, hr]), emit_run]
        simp [Functor.map, Except.map, Descriptor.afterCode, Descriptor.template, hc, hn]
    | custom name base view redirect api =>
      simp only [Descriptor.prepare_cls, hc, Descriptor.strategy, MethodClass.readsRequest]
      rw [hc] at hm
      cases hr : d.request o true with
      | error e =>
        rw [Op.run_bind_error _ (by rw [requestClass_run, Descriptor.prepare_request, hr])]
        simp [Functor.map, Except.map, Descriptor.afterFailure, Descriptor.requestQuery]
      | ok r =>
        obtain ⟨rc, is, qs⟩ := r
        rw [Op.run_bind_ok _ (by rw [requestClass_run, Descriptor.prepare_request, hr]),
          Op.run_pure]
        simp [Functor.map, Except.map, Descriptor.afterCode, Descriptor.template, hc, hm]

/-- Generating code as a step that either returns or fails: what the generator sees. -/
theorem code_attempt (o : Oracle) (d : Descriptor) :
    (code o).attempt d = if d.cls.mode = .none then pure ("", d) else
      (fun g => (g.code, d.afterCode g)) <$> d.strategy o := by
  rw [Op.attempt, code_run]
  by_cases hm : d.cls.mode = .none
  · rw [if_pos hm, if_pos hm]
    rfl
  · rw [if_neg hm, if_neg hm]
    cases d.strategy o <;> rfl

end CrudScaffold.Method
