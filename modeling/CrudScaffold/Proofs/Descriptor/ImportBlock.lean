import CrudScaffold.Proofs.Descriptor.QueryLog
import CrudScaffold.Proofs.Descriptor.ImportLog
import CrudScaffold.Proofs.Source.ImportLines

/-!
# The import block of a generated method

After generating, the import block of a method's imports binds the names its code refers to.
Which names those are is said here by what the method does, not by how its template is
written (`Descriptor.usedImports`):

* every resource method refers to its model class, `AsyncSession`, `Depends` and the session
  dependency, and to the parent class once a parent is attached;
* a web method takes the raw `Request`; an API method answers with its resource class;
* a method that loads one record, or has a parent to load, answers 404 through
  `HTTPException`; a method that loads records selects them with `select`;
* a web page renders through `HTMLResponse` and the templates, a web writing method through
  `RedirectResponse`; an API listing returns a `List`, API storing and deleting take a
  `Response`, and an API method that reads the raw request takes a `Request`;
* a method that reads its input as a typed payload refers to its custom request class.

Every one of these whose qualified name has a module part is listed on the line of that module
(`blockBinds_after_getCode`). The block need not bind a name only once: a model named like a
framework class is imported from two modules, and a session dependency or templates setting
without a module part gives a line `import N` instead (`importLines_request_model`).
-/

namespace CrudScaffold.Method

open CrudScaffold.Config CrudScaffold.Namespace CrudScaffold.Source

/-! ## What the code of a method refers to -/

namespace MethodClass

/-- Whether the class generates through a template of its own: the web and API classes. -/
def hasTemplate : MethodClass → Bool
  | .web _ | .api _ => true
  | .custom _ _ _ _ _ => false

theorem mode_ne_none_of_hasTemplate {cls : MethodClass} (h : cls.hasTemplate) :
    cls.mode ≠ .none := by
  cases cls with
  | web a =>
    rw [mode]
    split <;> simp
  | api a => simp [mode]
  | custom => simp [hasTemplate] at h

/-- Whether the code loads one record by its key: showing, editing, updating and deleting. An
API method without a template of its own shows a record. -/
def loadsRecord : MethodClass → Bool
  | .web a => a == .display || a == .edit || a == .update || a == .destroy
  | .api a => !(a == .index || a == .store)
  | .custom _ _ _ _ _ => false

/-- Whether the code selects records: listing, and loading one record. -/
def selects (cls : MethodClass) : Bool :=
  cls.loadsRecord ||
    match cls with
    | .web a | .api a => a == .index
    | .custom _ _ _ _ _ => false

/-- The qualified names the template of a class refers to, given whether a parent is attached,
whether the input is read as a typed payload, and the templates setting. -/
def templateUses (cls : MethodClass) (parent payload : Bool) (templates : String) :
    List String :=
  match cls with
  | .custom _ _ _ _ _ => []
  | .web a | .api a =>
    (if cls.loadsRecord || parent then ["fastapi.HTTPException"] else []) ++
      (if cls.selects then ["sqlalchemy.select"] else []) ++
      match cls with
      | .web _ =>
        if a.redirects then ["fastapi.responses.RedirectResponse"]
        else ["fastapi.responses.HTMLResponse", templates]
      | _ =>
        (if a == .index then ["typing.List"] else []) ++
          (if a == .store || a == .destroy then ["fastapi.Response"] else []) ++
          (if a.readsInput && !payload then ["fastapi.Request"] else [])

end MethodClass

namespace Context

/-- The log of a finished template is read off its final pair. -/
theorem log_pure {α : Type} (x : α × List String) : (pure x : Id (α × List String)).2 = x.2 := rfl

/-- A template that maps its value keeps its log; the instance is the one the monad gives, which
is the one the templates use. -/
theorem log_map {α β : Type} (f : α → β × List String) (x : Id α) :
    (@Functor.map Id (@Applicative.toFunctor Id (@Monad.toApplicative Id Id.instMonad)) _ _ f x).2 =
      (f x).2 := rfl

/-- A web template records every name its action refers to. The names depend on the action and
on whether a parent is loaded, so the proof runs each template with and without one. -/
theorem webCode_uses (c : Context) (rc : RequestClass) (a : Action) :
    ∀ q ∈ (MethodClass.web a).templateUses c.names.parent.isSome (rc.name != fallbackRequestClass)
      c.settings.view.templates, q ∈ ((c.webCode rc a).run []).2 := by
  cases a <;> cases hp : c.names.parent <;>
    simp [MethodClass.templateUses, MethodClass.loadsRecord, MethodClass.selects, Action.redirects,
      webCode, viewHeader, redirectHeader, parentLookup, recordLookup, collectionLookup,
      selectStatement, templateResponse, requestInput, need, hp, StateT.run_bind, StateT.run_modify,
      log_pure, log_map]

/-- An API template records every name its action refers to. The raw request is read only when
the request class is the generic one, and it is read as JSON only in an API context. -/
theorem apiCode_uses (c : Context) (hc : c.api) (rc : RequestClass) (a : Action) :
    ∀ q ∈ (MethodClass.api a).templateUses c.names.parent.isSome (rc.name != fallbackRequestClass)
      c.settings.view.templates, q ∈ ((c.apiCode rc a).run []).2 := by
  by_cases hr : rc.name = fallbackRequestClass <;>
  cases a <;> cases hp : c.names.parent <;>
    simp [MethodClass.templateUses, MethodClass.loadsRecord, MethodClass.selects, Action.readsInput,
      apiCode, parentLookup, recordLookup, collectionLookup, selectStatement, requestInput, need, hp,
      hr, hc, StateT.run_bind, StateT.run_modify, StateT.run_map, log_pure]

end Context

namespace Descriptor

/-- Whether generating reads the input as a typed payload: the template reads input, the oracle
knows the custom request class, and that class is not named like the generic one. -/
def hasPayload (o : Oracle) (d : Descriptor) : Bool :=
  d.cls.readsRequest && !(d.foundRequest o).isEmpty && d.candidate != fallbackRequestClass

/-- The qualified names the code of a method refers to. A custom class refers to none. -/
def usedImports (o : Oracle) (d : Descriptor) : List String :=
  if d.cls.hasTemplate then
    [d.model.qualifiedName, "fastapi.Depends", "sqlalchemy.ext.asyncio.AsyncSession",
        d.settings.controller.sessionDependency] ++
      d.parent.toList.map (·.qualifiedName) ++
      [if d.cls.isApi then (d.context d.fresh).resourceImport else "fastapi.Request"] ++
      d.cls.templateUses d.parent.isSome (d.hasPayload o) d.settings.view.templates ++
      (if d.hasPayload o then [d.requestQuery] else [])
  else []

/-- The parent, when attached, is among the imports. -/
def ParentImported (d : Descriptor) : Prop :=
  ∀ p, d.parent = some p → p.qualifiedName ∈ d.namespaces

section Parent

variable (o : Oracle) (d : Descriptor)

theorem parentImported_call (h : d.ParentImported) (c : Call) : (d.call o c).ParentImported := by
  intro p hp
  -- the imports only grow, and attaching a parent adds its name
  have hsub : d.namespaces ⊆ (d.call o c).namespaces := by
    rw [namespaces_call]
    exact List.subset_append_left _ _
  rw [call_parent] at hp
  cases c with
  | setParent m =>
    cases hi : m.introspect with
    | error e =>
      simp only [hi] at hp
      exact hsub (h p hp)
    | ok p' =>
      simp only [hi, Option.some.injEq] at hp
      subst hp
      rw [call_setParent, hi]
      exact List.mem_append_right _ (List.mem_singleton_self _)
  | _ => exact hsub (h p hp)

theorem parentImported_callAll (h : d.ParentImported) (cs : List Call) :
    (d.callAll o cs).ParentImported := by
  induction cs generalizing d with
  | nil => exact h
  | cons c cs ih => exact ih _ (parentImported_call o d h c)

end Parent

section Generated

variable {o : Oracle} (d : Descriptor)

/-- Given the oracle's answer, generating registers the custom class when the template reads
input and the class exists, followed by what the template records with the class it takes. -/
theorem strategyImports_of_answer {b : Bool} (hb : o d.requestQuery = .ok b) :
    d.strategyImports o = (if d.cls.readsRequest && b then [d.requestQuery] else []) ++
      (d.template (chooseRequest d.candidate d.requestQuery (d.cls.readsRequest && b))).2 := by
  simp only [strategyImports, strategy, d.request_of_answer hb]
  rfl

/-- An oracle that answers every question answers the question about the request class. -/
theorem exists_answer (ho : ∀ q, (o q).isOk) (q : String) : ∃ b, o q = .ok b := by
  have h := ho q
  cases hq : o q with
  | error e => simp [hq, Except.isOk, Except.toBool] at h
  | ok b => exact ⟨b, rfl⟩

/-- The template runs with a request class that reads a payload exactly when `hasPayload` says
so; generating registers the template's imports and, for a payload, the custom class. -/
theorem exists_template_imports (ho : ∀ q, (o q).isOk) :
    ∃ rc : RequestClass, (rc.name != fallbackRequestClass) = d.hasPayload o ∧
      (∀ q ∈ (d.template rc).2, q ∈ d.strategyImports o) ∧
      (d.hasPayload o → d.requestQuery ∈ d.strategyImports o) := by
  obtain ⟨b, hb⟩ := exists_answer ho d.requestQuery
  -- a payload is read exactly when the custom class is taken and is not named `Request`
  have hpay : d.hasPayload o =
      (d.cls.readsRequest && b && d.candidate != fallbackRequestClass) := by
    cases b <;> simp [hasPayload, foundRequest, hb]
  refine ⟨chooseRequest d.candidate d.requestQuery (d.cls.readsRequest && b), ?_, ?_, ?_⟩
  · rw [hpay]
    cases d.cls.readsRequest && b <;> simp [chooseRequest]
  · intro q hq
    rw [d.strategyImports_of_answer hb]
    exact List.mem_append_right _ hq
  · intro h
    have hrb : (d.cls.readsRequest && b) = true := by
      rw [hpay] at h
      simp only [Bool.and_eq_true] at h
      simp [h.1.1, h.1.2]
    rw [d.strategyImports_of_answer hb, hrb]
    exact List.mem_append_left _ (List.mem_singleton_self _)

/-- The parent is attached in the identifiers exactly when it is attached to the descriptor. -/
theorem fresh_parent_isSome : (d.context d.fresh).names.parent.isSome = d.parent.isSome := by
  simp [context, fresh, ResourceNames.of]

/-- Preparing a method with a template imports the model, the session and its dependency, and
the raw request for web or the resource class for API. -/
theorem prepImports_of_hasTemplate (h : d.cls.hasTemplate) :
    d.prepImports = [d.model.qualifiedName, "fastapi.Depends", "sqlalchemy.ext.asyncio.AsyncSession",
      d.settings.controller.sessionDependency] ++
      [if d.cls.isApi then (d.context d.fresh).resourceImport else "fastapi.Request"] := by
  cases hc : d.cls with
  | web a => simp [prepImports, baseImports, hc, MethodClass.base, Base.isResource, MethodClass.isApi]
  | api a => simp [prepImports, baseImports, hc, MethodClass.base, Base.isResource, MethodClass.isApi]
  | custom => simp [hc, MethodClass.hasTemplate] at h

/-- The template of a method records every name `templateUses` lists for it. -/
theorem templateUses_subset (h : d.cls.hasTemplate) (rc : RequestClass) :
    ∀ q ∈ d.cls.templateUses d.parent.isSome (rc.name != fallbackRequestClass)
      d.settings.view.templates, q ∈ (d.template rc).2 := by
  cases hc : d.cls with
  | web a =>
    have hu := (d.context d.fresh).webCode_uses rc a
    rw [fresh_parent_isSome, context_settings] at hu
    simpa [template, hc] using hu
  | api a =>
    have hu := (d.context d.fresh).apiCode_uses (by simp [context, hc, MethodClass.isApi]) rc a
    rw [fresh_parent_isSome, context_settings] at hu
    simpa [template, hc] using hu
  | custom => simp [hc, MethodClass.hasTemplate] at h

/-- After generating, every qualified name the code refers to is among the imports. -/
theorem usedImports_subset (ho : ∀ q, (o q).isOk) (hp : d.ParentImported) :
    ∀ q ∈ d.usedImports o, q ∈ (d.call o .getCode).namespaces := by
  intro q hq
  by_cases ht : d.cls.hasTemplate
  · obtain ⟨rc, hrc, htpl, hpay⟩ := d.exists_template_imports ho
    have hret : Call.getCode.returns o d := by simp [Call.returns, ho]
    rw [namespaces_call_getCode o d hret, Call.imports,
      if_neg (MethodClass.mode_ne_none_of_hasTemplate ht), d.prepImports_of_hasTemplate ht]
    simp only [usedImports, ht, if_true, List.mem_append] at hq
    simp only [List.mem_append]
    rcases hq with (((hb | hpar) | hx) | htu) | hpl
    · exact Or.inr (Or.inl (Or.inl hb))
    · obtain ⟨p, hpp, rfl⟩ := List.mem_map.1 hpar
      exact Or.inl (hp p (Option.mem_toList.1 hpp))
    · exact Or.inr (Or.inl (Or.inr hx))
    · rw [← hrc] at htu
      exact Or.inr (Or.inr (htpl q (d.templateUses_subset ht rc q htu)))
    · split at hpl
      · rename_i hpay'
        obtain rfl := List.mem_singleton.1 hpl
        exact Or.inr (Or.inr (hpay hpay'))
      · cases hpl
  · simp [usedImports, ht] at hq

end Generated

end Descriptor

/-- The import block of a method's imports after generating, for a descriptor made and then
used by any calls, with an oracle that answers every question, binds every name the code
refers to. -/
theorem blockBinds_after_getCode {cls : MethodClass} {settings : Settings} {model : Model}
    {d : Descriptor} (hd : Descriptor.create cls settings model = .ok d) {o : Oracle}
    (ho : ∀ q, (o q).isOk) (cs : List Call) :
    BlockBinds ((d.callAll o cs).call o .getCode).namespaces ((d.callAll o cs).usedImports o) := by
  -- a descriptor is made without a parent, so every parent it has was attached and imported
  have hp : (d.callAll o cs).ParentImported := by
    refine Descriptor.parentImported_callAll o d ?_ cs
    intro p hp
    rw [(Descriptor.create_fresh hd).2.2.2.2.2] at hp
    cases hp
  exact blockBinds_of_subset ((d.callAll o cs).usedImports_subset ho hp)

/-- Settings whose session dependency and templates have no module part. -/
def bareSettings : Settings :=
  { controller := { sessionDependency := "fastapi" }, view := { templates := "templates" } }

/-- A model class named like the framework's request class. -/
def requestModel : Model :=
  .cls { qualname := "Request", name := "Request", tablename := some (.str "requests") }

/-- The web listing of that model, as made with those settings. -/
def requestIndex : Descriptor :=
  { cls := .web .index, settings := bareSettings, model := ⟨"requests", "app.models.Request", "Request"⟩,
    requestFolder := "app.http.requests.Requests" }

/-- Listing a model named `Request`, with a session dependency and templates setting without a
module part: the block has the line `import templates`, and binds `Request` both on the line of
the model's module and on the line of `fastapi`. -/
theorem importLines_request_model :
    Descriptor.create (.web .index) bareSettings requestModel = .ok requestIndex ∧
    (∃ l ∈ importLines (requestIndex.call (fun _ => .ok false) .getCode).namespaces,
      l.module = "templates" ∧ l.names = []) ∧
    (∃ l₁ ∈ importLines (requestIndex.call (fun _ => .ok false) .getCode).namespaces,
      ∃ l₂ ∈ importLines (requestIndex.call (fun _ => .ok false) .getCode).namespaces,
        l₁.module = "app.models" ∧ l₂.module = "fastapi" ∧ "Request" ∈ l₁.names ∧
          "Request" ∈ l₂.names) := by
  refine ⟨rfl, ?_, ?_⟩
  · have hnone : importedNames (requestIndex.call (fun _ => .ok false) .getCode).namespaces
        "templates" = [] := by decide
    refine ⟨⟨"templates", []⟩, ?_, rfl, rfl⟩
    rw [mem_importLines]
    refine ⟨by decide, ?_⟩
    rw [hnone]
    simp [sortedSet]
  · have hs₁ : Text.splitLast '.' "app.models.Request" = ("app.models", "Request") := by decide
    have hs₂ : Text.splitLast '.' "fastapi.Request" = ("fastapi", "Request") := by decide
    obtain ⟨l₁, h₁, hm₁, hn₁⟩ := exists_line_of_module
      (show "app.models.Request" ∈ (requestIndex.call (fun _ => .ok false) .getCode).namespaces by
        decide) (by decide)
    obtain ⟨l₂, h₂, hm₂, hn₂⟩ := exists_line_of_module
      (show "fastapi.Request" ∈ (requestIndex.call (fun _ => .ok false) .getCode).namespaces by
        decide) (by decide)
    rw [hs₁] at hm₁ hn₁
    rw [hs₂] at hm₂ hn₂
    exact ⟨l₁, h₁, l₂, h₂, hm₁, hm₂, hn₁, hn₂⟩

end CrudScaffold.Method
