import CrudScaffold.Proofs.Descriptor.Generation

/-!
# Calls on a descriptor

A descriptor is used through calls: reading its method name or imports, setting its method
name or parent, asking for its request class, preparing it, generating its code. A call that
fails raises, and the caller may go on with the next one; the descriptor keeps what the call
changed before it failed. `Descriptor.callAll` makes a list of calls in this way.

What each call does to the whole descriptor is said once (`call_getCode`, `call_setParent`,
`call_getRequestClass`, …); statements about runs of calls are proved from these lemmas.

* `Call.returns` says when a call returns normally. Of the calls that fail, generating keeps
  its preparation and the question it asked, and asking for the request class keeps its
  question; every other failing call leaves the descriptor as it was (`call_of_returns_false`).
* The class, settings, model and request folder of a descriptor are never changed by a call
  (`callAll_cls`, `callAll_settings`, `callAll_model`, `callAll_requestFolder`), and only
  `setMethodName` changes the method name that was set (`call_explicitName`).
-/

namespace CrudScaffold.Method

open CrudScaffold.Namespace

/-- The calls a descriptor answers. -/
inductive Call where
  | getCode
  | getNamespaces
  | getMethodName
  | setMethodName (name : String)
  | setParent (model : Model)
  | hasParent
  | getRequestClass
  | getModelShortName
  | getParentShortName
  | beforeGenerate
  | addNamespace (names : List String)
  | names
  | repr

/-- What a call does to a descriptor; the value it answers is left out. -/
def Call.perform (o : Oracle) : Call → Op Unit
  | .getCode => (fun _ => ()) <$> Method.code o
  | .setMethodName n => Method.setMethodName n
  | .setParent m => Method.setParent m
  | .getRequestClass => (fun _ => ()) <$> requestClass o
  | .getParentShortName => do
    let d ← get
    (fun _ => ()) <$> (MonadExcept.ofExcept d.parentShortName : Op String)
  | .beforeGenerate => Method.beforeGenerate
  | .addNamespace qs => addNamespaces qs
  | .names => do
    let d ← get
    (fun _ => ()) <$> (MonadExcept.ofExcept d.names : Op ResourceNames)
  | .getNamespaces | .getMethodName | .hasParent | .getModelShortName | .repr => pure ()

/-- Whether a call returns normally. Generating fails only when the template asks the oracle
and the oracle fails; attaching a parent fails when the model cannot be read. -/
def Call.returns (o : Oracle) (d : Descriptor) : Call → Bool
  | .getCode => d.cls.mode == .none || !d.cls.readsRequest || (o d.requestQuery).isOk
  | .setParent m => m.introspect.isOk
  | .getRequestClass => (o d.requestQuery).isOk
  | .getParentShortName => d.parent.isSome
  | .names => d.names?.isSome
  | _ => true

namespace Descriptor

/-- Makes a call, giving the descriptor it leaves whether it returns or fails. -/
def call (o : Oracle) (d : Descriptor) (c : Call) : Descriptor :=
  match (c.perform o).run d with
  | .ok _ d' => d'
  | .error _ d' => d'

/-- Makes calls one after another, each on the descriptor that the one before left. -/
def callAll (o : Oracle) (d : Descriptor) (cs : List Call) : Descriptor :=
  cs.foldl (call o) d

section Calls

variable (o : Oracle) (d : Descriptor)

@[simp] theorem callAll_nil : d.callAll o [] = d := rfl

@[simp] theorem callAll_cons (c : Call) (cs : List Call) :
    d.callAll o (c :: cs) = (d.call o c).callAll o cs := rfl

/-! ## What each call does -/

@[simp] theorem call_getCode : d.call o .getCode =
    if d.cls.mode = .none then d else
      match d.strategy o with
      | .ok g => d.afterCode g
      | .error _ => d.afterFailure := by
  rw [call, Call.perform, Op.run_map, code_run]
  by_cases hm : d.cls.mode = .none
  · simp only [hm, if_true]
  · simp only [hm, if_false]
    cases d.strategy o <;> rfl

@[simp] theorem call_setMethodName (n : String) :
    d.call o (.setMethodName n) = { d with explicitName := some n } := rfl

/-- Attaching a parent reads it first, so a parent that cannot be read changes nothing. -/
@[simp] theorem call_setParent (m : Model) : d.call o (.setParent m) =
    match m.introspect with
    | .ok p => { d with parent := some p, namespaces := d.namespaces ++ [p.qualifiedName] }
    | .error _ => d := by
  rw [call, Call.perform, Method.setParent]
  cases hi : m.introspect with
  | error e => rw [Op.run_bind_error _ (by rw [Op.run_ofExcept])]
  | ok p =>
    rw [Op.run_bind_ok _ (by rw [Op.run_ofExcept])]
    rfl

/-- Asking for the request class records its question even when the oracle fails. -/
@[simp] theorem call_getRequestClass : d.call o .getRequestClass =
    match d.request o true with
    | .ok (_, is, qs) => { d with namespaces := d.namespaces ++ is, queries := d.queries ++ qs }
    | .error _ => { d with queries := d.queries ++ [d.requestQuery] } := by
  rw [call, Call.perform, Op.run_map, requestClass_run]
  cases d.request o true <;> rfl

@[simp] theorem call_getParentShortName : d.call o .getParentShortName = d := by
  rw [call, Call.perform, Op.run_get_bind, Op.run_map, Op.run_ofExcept]
  cases d.parentShortName <;> rfl

@[simp] theorem call_beforeGenerate : d.call o .beforeGenerate = d.prepare := by
  rw [call, Call.perform, beforeGenerate_run]

@[simp] theorem call_addNamespace (qs : List String) :
    d.call o (.addNamespace qs) = { d with namespaces := d.namespaces ++ qs } := rfl

@[simp] theorem call_names : d.call o .names = d := by
  rw [call, Call.perform, Op.run_get_bind, Op.run_map, Op.run_ofExcept]
  cases d.names <;> rfl

@[simp] theorem call_getNamespaces : d.call o .getNamespaces = d := rfl

@[simp] theorem call_getMethodName : d.call o .getMethodName = d := rfl

@[simp] theorem call_hasParent : d.call o .hasParent = d := rfl

@[simp] theorem call_getModelShortName : d.call o .getModelShortName = d := rfl

@[simp] theorem call_repr : d.call o .repr = d := rfl

/-- Generating returns for a method with a way to generate only when its template runs. -/
theorem strategy_ok_of_returns (h : Call.getCode.returns o d) (hm : d.cls.mode ≠ .none) :
    ∃ g, d.strategy o = .ok g := by
  have hr : (d.strategy o).isOk := by
    rw [strategy_isOk]
    simpa [Call.returns, hm] using h
  cases hg : d.strategy o with
  | error e =>
    rw [hg] at hr
    cases hr
  | ok g => exact ⟨g, rfl⟩

/-- What a call that does not return normally leaves: generating keeps its preparation and
the question asked, asking for the request class keeps the question, and every other call
leaves the descriptor as it was. -/
theorem call_of_returns_false {c : Call} (h : c.returns o d = false) : d.call o c =
    match c with
    | .getCode => d.afterFailure
    | .getRequestClass => { d with queries := d.queries ++ [d.requestQuery] }
    | _ => d := by
  cases c with
  | getCode =>
    simp only [Call.returns, Bool.or_eq_false_iff, beq_eq_false_iff_ne] at h
    obtain ⟨⟨hm, hr⟩, ho⟩ := h
    have hs : (d.strategy o).isOk = false := by rw [strategy_isOk, hr, ho]; rfl
    rw [call_getCode, if_neg hm]
    cases hg : d.strategy o with
    | error e => rfl
    | ok g => rw [hg] at hs; cases hs
  | setParent m =>
    simp only [Call.returns] at h
    rw [call_setParent]
    cases hi : m.introspect with
    | error e => rfl
    | ok p => simp [hi, Except.isOk, Except.toBool] at h
  | getRequestClass =>
    simp only [Call.returns] at h
    rw [call_getRequestClass]
    cases ho : o d.requestQuery with
    | error e => simp [request, ho, Functor.map, Except.map]
    | ok b => simp [ho, Except.isOk, Except.toBool] at h
  | getParentShortName => exact call_getParentShortName o d
  | names => exact call_names o d
  | _ => simp [Call.returns] at h

/-! ## What no call changes -/

/-- A call changes only the parent, the identifiers, the method name that was set, the imports
and the questions asked. -/
theorem call_frame (c : Call) : ∃ p n e ns qs, d.call o c =
    { d with parent := p, names? := n, explicitName := e, namespaces := ns, queries := qs } := by
  cases c <;> simp only [call_getCode, call_setMethodName, call_setParent, call_getRequestClass,
    call_getParentShortName, call_beforeGenerate, call_addNamespace, call_names, call_getNamespaces,
    call_getMethodName, call_hasParent, call_getModelShortName, call_repr, prepare] <;>
    repeat' split
  all_goals exact ⟨_, _, _, _, _, rfl⟩

@[simp] theorem call_cls (c : Call) : (d.call o c).cls = d.cls := by
  obtain ⟨p, n, e, ns, qs, h⟩ := d.call_frame o c
  rw [h]

@[simp] theorem call_settings (c : Call) : (d.call o c).settings = d.settings := by
  obtain ⟨p, n, e, ns, qs, h⟩ := d.call_frame o c
  rw [h]

@[simp] theorem call_model (c : Call) : (d.call o c).model = d.model := by
  obtain ⟨p, n, e, ns, qs, h⟩ := d.call_frame o c
  rw [h]

@[simp] theorem call_requestFolder (c : Call) : (d.call o c).requestFolder = d.requestFolder := by
  obtain ⟨p, n, e, ns, qs, h⟩ := d.call_frame o c
  rw [h]

/-- The method name that was set changes only by setting it. -/
theorem call_explicitName (c : Call) : (d.call o c).explicitName =
    match c with
    | .setMethodName n => some n
    | _ => d.explicitName := by
  cases c <;> simp only [call_getCode, call_setMethodName, call_setParent, call_getRequestClass,
    call_getParentShortName, call_beforeGenerate, call_addNamespace, call_names, call_getNamespaces,
    call_getMethodName, call_hasParent, call_getModelShortName, call_repr,
    prepare_explicitName] <;>
    repeat' split
  all_goals rfl

/-- The parent changes only by attaching one that can be read. -/
theorem call_parent (c : Call) : (d.call o c).parent =
    match c with
    | .setParent m =>
      match m.introspect with
      | .ok p => some p
      | .error _ => d.parent
    | _ => d.parent := by
  cases c <;> simp only [call_getCode, call_setMethodName, call_setParent, call_getRequestClass,
    call_getParentShortName, call_beforeGenerate, call_addNamespace, call_names, call_getNamespaces,
    call_getMethodName, call_hasParent, call_getModelShortName, call_repr, prepare_parent] <;>
    repeat' split
  all_goals rfl

/-! ## Runs of calls -/

@[simp] theorem callAll_cls (cs : List Call) : (d.callAll o cs).cls = d.cls := by
  induction cs generalizing d with
  | nil => rfl
  | cons c cs ih => rw [callAll_cons, ih, call_cls]

@[simp] theorem callAll_settings (cs : List Call) : (d.callAll o cs).settings = d.settings := by
  induction cs generalizing d with
  | nil => rfl
  | cons c cs ih => rw [callAll_cons, ih, call_settings]

@[simp] theorem callAll_model (cs : List Call) : (d.callAll o cs).model = d.model := by
  induction cs generalizing d with
  | nil => rfl
  | cons c cs ih => rw [callAll_cons, ih, call_model]

@[simp] theorem callAll_requestFolder (cs : List Call) :
    (d.callAll o cs).requestFolder = d.requestFolder := by
  induction cs generalizing d with
  | nil => rfl
  | cons c cs ih => rw [callAll_cons, ih, call_requestFolder]

end Calls

end Descriptor

/-! ## A descriptor of posts -/

/-- A model of posts, kept in the table named by its class attribute. -/
def postModel : Model := .cls { qualname := "Post", name := "Post", tablename := some (.str "posts") }

/-- The web method storing posts, as made with the default settings. -/
def postStore : Descriptor :=
  { cls := .web .store, settings := {}, model := ⟨"posts", "app.models.Post", "Post"⟩,
    requestFolder := "app.http.requests.Posts" }

/-- An oracle that knows one custom request class of posts. -/
def postRequests : Oracle := fun q => .ok (q == "app.http.requests.Posts.PublishRequest")

/-- An oracle that knows no class and fails on the publishing request class of posts, as the
oracle that imports modules does when that module raises. -/
def failsOnPublish : Oracle := fun q =>
  if q == "app.http.requests.Posts.PublishRequest" then .error (.importFailed "broken") else .ok false

end CrudScaffold.Method
