import CrudScaffold.Proofs.Descriptor.Generation

/-!
# How a template reads submitted data

The storing and updating templates read the submitted data either as a typed payload of the
custom request class, or from the raw request: a form for web methods, JSON for API methods,
which then also import the generic `Request`. The template decides by the class name it is
given: any name other than the generic `Request` is a custom class (`requestInput_typed`).
The class name comes from asking the oracle: the custom class when it exists, else the generic
one.

`strategy_reads_request` puts the two decisions side by side. The oracle is asked once, about
the custom class `q`, and `q` is imported exactly when the class exists. The payload is typed
exactly when the class exists and is not itself named `Request`; a custom class of that name,
which an empty class suffix and the method name `request` give, is imported, yet the template
reads the raw request just as when no class exists.
-/

namespace CrudScaffold.Method

open CrudScaffold.Config CrudScaffold.Namespace

namespace Context

/-- A class named like the generic one is read as the generic one. -/
theorem requestInput_of_name (c : Context) {rc : RequestClass}
    (h : rc.name = fallbackRequestClass) :
    c.requestInput rc = c.requestInput ⟨fallbackRequestClass, none⟩ := by
  simp [requestInput, h]

/-- Any other class name gives a typed payload of that class, and no import. -/
theorem requestInput_typed (c : Context) {rc : RequestClass}
    (h : rc.name ≠ fallbackRequestClass) :
    (c.requestInput rc).run [] =
      ((["payload: " ++ rc.name], ["data = payload.model_dump(exclude_unset=True)"]), []) := by
  rw [requestInput, if_pos (bne_iff_ne.2 h)]
  rfl

/-- The generic class reads the raw request: a form for web methods, JSON for API methods,
which take the request as a parameter and import its class. -/
theorem requestInput_raw (c : Context) :
    (c.requestInput ⟨fallbackRequestClass, none⟩).run [] =
      if c.api then ((["request: Request"], ["data = await request.json()"]), ["fastapi.Request"])
      else (([], ["data = dict(await request.form())"]), []) := by
  unfold requestInput
  cases c.api <;> rfl

theorem webCode_of_name (c : Context) {rc : RequestClass} (h : rc.name = fallbackRequestClass)
    (a : Action) : c.webCode rc a = c.webCode ⟨fallbackRequestClass, none⟩ a := by
  cases a <;> simp only [webCode, c.requestInput_of_name h]

theorem apiCode_of_name (c : Context) {rc : RequestClass} (h : rc.name = fallbackRequestClass)
    (a : Action) : c.apiCode rc a = c.apiCode ⟨fallbackRequestClass, none⟩ a := by
  cases a <;> simp only [apiCode, c.requestInput_of_name h]

end Context

theorem chooseRequest_name (cand path : String) (b : Bool) :
    (chooseRequest cand path b).name = if b then cand else fallbackRequestClass := by
  cases b <;> rfl

namespace Descriptor

/-- A template sees of its request class only the name: a class named like the generic one
gives the code and imports of the generic one. -/
theorem template_of_name (d : Descriptor) {rc : RequestClass}
    (h : rc.name = fallbackRequestClass) :
    d.template rc = d.template ⟨fallbackRequestClass, none⟩ := by
  unfold template
  split
  · rw [Context.webCode_of_name _ h]
  · rw [Context.apiCode_of_name _ h]
  · rw [h]

/-- When the oracle answers `b` about the custom request class, a template that reads submitted
data asks only that and imports the class exactly when `b`; it reads a typed payload exactly
when `b` holds and the class is not named `Request`, and the raw request otherwise. -/
theorem strategy_reads_request (o : Oracle) (d : Descriptor) {b : Bool}
    (hb : o d.requestQuery = .ok b) (hr : d.cls.readsRequest) :
    d.strategy o = .ok ⟨(d.template (chooseRequest d.candidate d.requestQuery b)).1,
        (if b then [d.requestQuery] else []) ++
          (d.template (chooseRequest d.candidate d.requestQuery b)).2,
        [d.requestQuery]⟩ ∧
    ((d.context d.fresh).requestInput (chooseRequest d.candidate d.requestQuery b)).run [] =
      (if b ∧ d.candidate ≠ fallbackRequestClass then
        ((["payload: " ++ d.candidate], ["data = payload.model_dump(exclude_unset=True)"]), [])
      else if d.cls.isApi then
        ((["request: Request"], ["data = await request.json()"]), ["fastapi.Request"])
      else (([], ["data = dict(await request.form())"]), [])) ∧
    (d.candidate = fallbackRequestClass →
      d.template (chooseRequest d.candidate d.requestQuery b) =
        d.template ⟨fallbackRequestClass, none⟩) := by
  refine ⟨?_, ?_, ?_⟩
  · simp [strategy, d.request_of_answer hb, hr, Functor.map, Except.map]
  · by_cases h : b = true ∧ d.candidate ≠ fallbackRequestClass
    · rw [if_pos h, Context.requestInput_typed]
      · simp [chooseRequest, h.1]
      · simp [chooseRequest_name, h.1, h.2]
    · -- the class found is the generic one, or a custom class of the generic name
      have hname : (chooseRequest d.candidate d.requestQuery b).name = fallbackRequestClass := by
        cases b <;> simp_all [chooseRequest]
      rw [if_neg h, Context.requestInput_of_name _ hname, Context.requestInput_raw]
      rfl
  · intro hc
    apply template_of_name
    simp [chooseRequest_name, hc]

end Descriptor

/-- The web method storing posts, renamed `request`, with an empty request class suffix. -/
def requestStore : Descriptor :=
  { cls := .web .store, settings := { request := { classSuffix := "" } },
    model := ⟨"posts", "app.models.Post", "Post"⟩, explicitName := some "request",
    requestFolder := "app.http.requests.Posts" }

/-- An oracle that knows one custom request class of posts, named `Request`. -/
def requestOracle : Oracle := fun q => .ok (q == "app.http.requests.Posts.Request")

theorem requestOracle_requestStore : requestOracle requestStore.requestQuery = .ok true := by
  have hq : requestStore.requestQuery = "app.http.requests.Posts.Request" := rfl
  rw [hq]
  simp [requestOracle]

theorem strategy_reads_request_store :
    requestOracle requestStore.requestQuery = .ok true ∧ requestStore.cls.readsRequest ∧
    requestStore.strategy requestOracle =
      .ok ⟨(requestStore.template
          (chooseRequest requestStore.candidate requestStore.requestQuery true)).1,
        (if true then [requestStore.requestQuery] else []) ++
          (requestStore.template
            (chooseRequest requestStore.candidate requestStore.requestQuery true)).2,
        [requestStore.requestQuery]⟩ ∧
    ((requestStore.context requestStore.fresh).requestInput
        (chooseRequest requestStore.candidate requestStore.requestQuery true)).run [] =
      (if true = true ∧ requestStore.candidate ≠ fallbackRequestClass then
        ((["payload: " ++ requestStore.candidate],
          ["data = payload.model_dump(exclude_unset=True)"]), [])
      else if requestStore.cls.isApi then
        ((["request: Request"], ["data = await request.json()"]), ["fastapi.Request"])
      else (([], ["data = dict(await request.form())"]), [])) ∧
    (requestStore.candidate = fallbackRequestClass →
      requestStore.template (chooseRequest requestStore.candidate requestStore.requestQuery true) =
        requestStore.template ⟨fallbackRequestClass, none⟩) :=
  ⟨requestOracle_requestStore, rfl,
    Descriptor.strategy_reads_request requestOracle requestStore requestOracle_requestStore rfl⟩

/-- The oracle knows the custom class `Request`, and generating the code registers its import,
yet the code is the one generated when no custom class exists, and that code reads the raw
form. -/
theorem code_found_request_reads_form :
    requestOracle requestStore.requestQuery = .ok true ∧
    ∃ c d₁ d₂, (code requestOracle).run requestStore = .ok c d₁ ∧
      (code (fun _ => .ok false)).run requestStore = .ok c d₂ ∧
      requestStore.requestQuery ∈ d₁.namespaces ∧
      ((requestStore.context requestStore.fresh).requestInput ⟨fallbackRequestClass, none⟩).run [] =
        (([], ["data = dict(await request.form())"]), []) := by
  have hb := requestOracle_requestStore
  have hc : requestStore.candidate = fallbackRequestClass := rfl
  have hmode : requestStore.cls.mode ≠ .none := by decide
  have hname : (chooseRequest requestStore.candidate requestStore.requestQuery true).name =
      fallbackRequestClass := by rw [chooseRequest_name, if_pos rfl, hc]
  have hr : requestStore.cls.readsRequest = true := rfl
  simp only [code_run, if_neg hmode, Descriptor.strategy, requestStore.request_of_answer hb,
    requestStore.request_of_answer (o := fun _ => .ok false) rfl, hr, Bool.and_true,
    Bool.and_false, Functor.map, Except.map, Descriptor.template_of_name _ hname]
  refine ⟨hb, _, _, _, rfl, rfl, ?_, Context.requestInput_raw _⟩
  simp [Descriptor.afterCode]

end CrudScaffold.Method
