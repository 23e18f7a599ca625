import CrudScaffold.Proofs.Descriptor.Calls

/-!
# The questions a descriptor asks

A descriptor asks its oracle about one name each time it looks for the custom request class of
its method: when asked for its request class, and when it generates the code of a method whose
template reads submitted data (storing and updating, and every custom class that generates).
Nothing else asks: not making the descriptor, not attaching a parent, not generating the other
actions or a method without a way to generate.

The name asked about is the request folder, a dot, the method name with an upper-case first
letter, and the class suffix. The folder is computed once, when the descriptor is made, from
the request namespace under the root and the table of the model; no call changes it. The method
name is the one the calls set last, unless that was empty, and otherwise the class name with a
lower-case first letter.

`queries_callAll_of_create` says all of this at once: for every oracle, the questions asked
over any run of calls are `requestLog` of the calls, which follows the method name from call
to call and lists one question per asking call. The question is recorded before the oracle
answers, so a call that fails because the oracle did still counts its question.
-/

namespace CrudScaffold.Method

open CrudScaffold.Config CrudScaffold.Namespace

/-- Whether generating the code of a class asks for its request class: only a method with a
way to generate, and then the storing and updating actions and every custom class. -/
def MethodClass.asksOnCode (cls : MethodClass) : Bool :=
  cls.mode != .none &&
    match cls with
    | .web a | .api a => a == .store || a == .update
    | .custom _ _ _ _ _ => true

/-- The questions a run of calls asks, one for each call that looks for the request class,
each about the name `query m` for the method name `m` in effect at that call. The method name
starts as `m` and a call setting the name `n` makes it `rename n`. -/
def requestLog (query : String → String) (asksOnCode : Bool) (rename : String → String) :
    String → List Call → List String
  | _, [] => []
  | m, c :: cs =>
    let asked := match c with
      | .getRequestClass => [query m]
      | .getCode => if asksOnCode then [query m] else []
      | _ => []
    let m' := match c with
      | .setMethodName n => rename n
      | _ => m
    asked ++ requestLog query asksOnCode rename m' cs

/-- The question about the custom request class of the method named `m`, in folder `F` with
class suffix `S`. -/
def requestName (F S m : String) : String := F ++ "." ++ Naming.ucfirst m ++ S

theorem MethodClass.readsRequest_of_asksOnCode {cls : MethodClass} (h : cls.asksOnCode) :
    cls.mode ≠ .none ∧ cls.readsRequest := by
  simp only [MethodClass.asksOnCode, Bool.and_eq_true, bne_iff_ne] at h
  obtain ⟨hm, hr⟩ := h
  refine ⟨hm, ?_⟩
  cases cls with
  | web a | api a => cases a <;> simp_all [MethodClass.readsRequest, Action.readsInput]
  | custom => rfl

theorem MethodClass.asksOnCode_iff (cls : MethodClass) :
    cls.asksOnCode ↔ cls.mode ≠ .none ∧ cls.readsRequest := by
  refine ⟨MethodClass.readsRequest_of_asksOnCode, ?_⟩
  rintro ⟨hm, hr⟩
  cases cls with
  | web a | api a =>
    cases a <;> simp_all [MethodClass.asksOnCode, MethodClass.readsRequest, Action.readsInput]
  | custom => simpa [MethodClass.asksOnCode] using hm

namespace Descriptor

section Step

variable (o : Oracle) (d : Descriptor)

theorem requestQuery_eq : d.requestQuery =
    requestName d.requestFolder d.settings.request.classSuffix d.methodName := by
  simp [requestQuery, requestCandidate, requestName, String.append_assoc]

/-- The method name after a call: setting a name makes it that name, unless it is empty; no
other call changes it. -/
theorem methodName_call (c : Call) : (d.call o c).methodName =
    match c with
    | .setMethodName n => if n.isEmpty then Naming.lcfirst d.cls.className else n
    | _ => d.methodName := by
  have he := d.call_explicitName o c
  cases c <;> simp only [methodName, he, call_cls]

/-- Looking for the request class asks one question when the template reads input and none
otherwise, whatever the oracle answers. -/
theorem request_queries {o : Oracle} {reads : Bool} {rc : RequestClass} {is qs : List String}
    (h : d.request o reads = .ok (rc, is, qs)) :
    qs = if reads then [d.requestQuery] else [] := by
  unfold request at h
  cases reads
  · cases h
    rfl
  · cases ho : o d.requestQuery with
    | error e => simp [ho, Functor.map, Except.map] at h
    | ok b =>
      cases b <;> simp [ho, Functor.map, Except.map] at h <;> simp [← h.2.2]

/-- Looking for the request class fails only when it asks the oracle. -/
theorem reads_of_request_error {o : Oracle} {reads : Bool} {e : Failure}
    (h : d.request o reads = .error e) : reads = true := by
  cases reads
  · cases h
  · rfl

variable {o} in
/-- One call asks about the request class when it looks for it: asking for the class always
does, generating does when the class asks on generating, and no other call does. The question
is asked whatever the oracle answers. -/
theorem queries_call (c : Call) : (d.call o c).queries = d.queries ++
    match c with
    | .getRequestClass => [d.requestQuery]
    | .getCode => if d.cls.asksOnCode then [d.requestQuery] else []
    | _ => [] := by
  cases c with
  | getCode =>
    rw [call_getCode]
    by_cases hm : d.cls.mode = .none
    · have hn : d.cls.asksOnCode = false := by simp [MethodClass.asksOnCode, hm]
      simp [hm, hn]
    · have ha : d.cls.asksOnCode = d.cls.readsRequest := by
        rw [Bool.eq_iff_iff, MethodClass.asksOnCode_iff]
        exact and_iff_right hm
      rw [if_neg hm, ha]
      -- the template asks when it reads input, and only then can the oracle fail it
      cases hr : d.request o d.cls.readsRequest with
      | error e =>
        have hs : d.strategy o = .error e := by simp [strategy, hr, Functor.map, Except.map]
        rw [hs, reads_of_request_error d hr]
        simp [afterFailure]
      | ok r =>
        obtain ⟨rc, is, qs⟩ := r
        have hs : d.strategy o = .ok ⟨(d.template rc).1, is ++ (d.template rc).2, qs⟩ := by
          simp [strategy, hr, Functor.map, Except.map]
        rw [hs]
        simp [afterCode, request_queries d hr]
  | getRequestClass =>
    rw [call_getRequestClass]
    cases hr : d.request o true with
    | error e => rfl
    | ok r =>
      obtain ⟨rc, is, qs⟩ := r
      simp [request_queries d hr]
  | setParent m =>
    rw [call_setParent]
    cases m.introspect <;> simp
  | _ => simp

end Step

variable {o : Oracle}

/-- Over any run of calls, the questions grow by `requestLog` of the calls, started from the
method name in effect. The folder, the suffix and the class never change, so the question
depends on the run only through the method name. -/
theorem queries_callAll (d : Descriptor) (cs : List Call) :
    (d.callAll o cs).queries = d.queries ++
      requestLog (requestName d.requestFolder d.settings.request.classSuffix) d.cls.asksOnCode
        (fun n => if n.isEmpty then Naming.lcfirst d.cls.className else n) d.methodName cs := by
  induction cs generalizing d with
  | nil => simp [requestLog]
  | cons c cs ih =>
    rw [callAll_cons, ih, call_requestFolder, call_settings, call_cls, methodName_call,
      queries_call d, requestQuery_eq, List.append_assoc]
    cases c <;> simp only [requestLog]

end Descriptor

/-- A descriptor just made has asked nothing, has no method name set and no parent. -/
theorem Descriptor.create_fresh {cls : MethodClass} {settings : Settings} {model : Model}
    {d : Descriptor} (h : Descriptor.create cls settings model = .ok d) :
    d.cls = cls ∧ d.settings = settings ∧ d.queries = [] ∧ d.explicitName = none ∧
      d.requestFolder = Namespace.requestFolder (requestRoot settings cls.isApi) d.model.table ∧
      d.parent = none := by
  unfold Descriptor.create at h
  cases hi : model.introspect with
  | error e => simp [hi, bind, Except.bind] at h
  | ok info =>
    simp only [hi, bind, Except.bind, pure, Except.pure, Except.ok.injEq] at h
    subst h
    exact ⟨rfl, rfl, rfl, rfl, rfl, rfl⟩

/-- For every oracle, a descriptor asks one question per call that looks for the request class,
in order: the request folder fixed when it was made, a dot, the method name in effect with a
capital first letter, and the class suffix. -/
theorem queries_callAll_of_create {cls : MethodClass} {settings : Settings} {model : Model}
    {d : Descriptor} (hd : Descriptor.create cls settings model = .ok d) (cs : List Call) :
    (d.callAll o cs).requestFolder = requestFolder (requestRoot settings cls.isApi) d.model.table ∧
    (d.callAll o cs).queries =
      requestLog (requestName (requestFolder (requestRoot settings cls.isApi) d.model.table)
          settings.request.classSuffix) cls.asksOnCode
        (fun n => if n.isEmpty then Naming.lcfirst cls.className else n)
        (Naming.lcfirst cls.className) cs := by
  obtain ⟨hc, hs, hq, he, hf, -⟩ := Descriptor.create_fresh hd
  have hm : d.methodName = Naming.lcfirst cls.className := by
    rw [Descriptor.methodName, he, hc]
  refine ⟨by rw [Descriptor.callAll_requestFolder, hf], ?_⟩
  rw [Descriptor.queries_callAll, hq, List.nil_append, hf, hs, hc, hm]

/-- Generating, renaming the method, asking for the request class of a name the oracle fails
on, clearing the name and generating again asks about the default name, the new name and the
default name again: the failed question is counted. -/
theorem queries_post_store_renamed :
    Descriptor.create (.web .store) {} postModel = .ok postStore ∧
    (postStore.callAll failsOnPublish
        [.getCode, .setMethodName "publish", .getRequestClass, .setMethodName "", .getCode]).queries =
      ["app.http.requests.Posts.StoreRequest", "app.http.requests.Posts.PublishRequest",
        "app.http.requests.Posts.StoreRequest"] := by
  have hd : Descriptor.create (.web .store) {} postModel = .ok postStore := rfl
  refine ⟨hd, ?_⟩
  rw [(queries_callAll_of_create hd _).2]
  rfl

end CrudScaffold.Method
