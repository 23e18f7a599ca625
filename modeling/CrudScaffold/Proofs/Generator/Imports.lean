import CrudScaffold.Proofs.Descriptor.ImportBlock
import CrudScaffold.Generator

/-!
# The import block of a report

A generation run makes a fresh descriptor for each requested name, attaches the parent when
there is one, and generates its code; the report keeps every generated method with the
imports its descriptor gathered. The block of a report is the block of all these imports, so
it binds what each generated method's code refers to (`importBlocks_bind_used_names`), as the
block of one method does.

* `code_attempt_of_returns`: generating that returns leaves the descriptor of
  `Descriptor.call`.
* `buildMethod_parentImported`: a built descriptor has its parent among its imports.
* `mem_methods_of_foldlM`: every requested method that generates is kept in the report.
-/

namespace CrudScaffold

open CrudScaffold.Config CrudScaffold.Method CrudScaffold.Source

/-- Generating that returns gives its code and the descriptor that the generating call
leaves. -/
theorem code_attempt_of_returns {o : Oracle} {d : Descriptor} (h : Call.getCode.returns o d) :
    ∃ s, (code o).attempt d = .ok (s, d.call o .getCode) := by
  rw [code_attempt, Descriptor.call_getCode]
  by_cases hm : d.cls.mode = .none
  · exact ⟨"", by simp [hm]; rfl⟩
  · obtain ⟨g, hg⟩ := d.strategy_ok_of_returns o h hm
    simp only [hm, if_false, hg]
    exact ⟨g.code, rfl⟩

/-- Generating a method that returns records the imports of the generating call. -/
theorem generateMethod_of_returns {o : Oracle} {d : Descriptor} (h : Call.getCode.returns o d) :
    ∃ m, generateMethod o d = .ok (m, d.call o .getCode) ∧
      m.namespaces = (d.call o .getCode).namespaces := by
  obtain ⟨s, hs⟩ := code_attempt_of_returns h
  refine ⟨⟨(d.call o .getCode).methodName, (d.call o .getCode).cls.path, s,
    (d.call o .getCode).namespaces, (d.call o .getCode).cls.isApi⟩, ?_, rfl⟩
  simp only [generateMethod, hs, bind, Except.bind, pure, Except.pure]

/-- A descriptor built for a run has its parent, if any, among its imports. -/
theorem buildMethod_parentImported {settings : Settings} {name : String} {model : Model}
    {parent : Option Model} {api : Bool} {d : Descriptor}
    (h : buildMethod settings name model parent api none = .ok d) : d.ParentImported := by
  unfold buildMethod at h
  cases hr : Method.resolve name api with
  | error e => simp [hr, bind, Except.bind] at h
  | ok cls =>
    cases hc : Descriptor.create cls settings model with
    | error e => simp [hr, hc, bind, Except.bind] at h
    | ok d₀ =>
      have h₀ : d₀.ParentImported := by
        intro p hp
        rw [(Descriptor.create_fresh hc).2.2.2.2.2] at hp
        cases hp
      simp only [hr, hc, bind, Except.bind] at h
      cases parent with
      | none =>
        cases h
        exact h₀
      | some m =>
        -- attaching the parent is the call that attaches it
        have hcall : d₀.call (fun _ => .ok false) (.setParent m) = d := by
          simp only [Op.attempt] at h
          simp only [Descriptor.call, Call.perform]
          cases hs : (setParent m).run d₀ with
          | error e x => simp [hs] at h
          | ok u x => simp only [hs, pure, Except.pure, Except.ok.injEq] at h ⊢; rw [← h]
        rw [← hcall]
        exact Descriptor.parentImported_call _ d₀ h₀ _

/-- A run keeps the methods it already had, and adds every requested method that builds and
generates. -/
theorem mem_methods_of_foldlM {settings : Settings} {o : Oracle} {model : Model}
    {parent : Option Model} {api : Bool} :
    ∀ (names : List String) (acc r : Report × List String),
      names.foldlM (generateStep settings o model parent api) acc = .ok r →
      (∀ m ∈ acc.1.methods, m ∈ r.1.methods) ∧
      ∀ name ∈ names, ∀ m d, (buildMethod settings name model parent api none >>= generateMethod o) =
        .ok (m, d) → m ∈ r.1.methods := by
  intro names
  induction names with
  | nil =>
    intro acc r h
    cases h
    exact ⟨fun _ hm => hm, fun _ hn => by cases hn⟩
  | cons n ns ih =>
    intro acc r h
    rw [List.foldlM_cons] at h
    cases hs : generateStep settings o model parent api acc n with
    | error e => simp [hs, bind, Except.bind] at h
    | ok acc' =>
      simp only [hs, bind, Except.bind] at h
      obtain ⟨hkeep, hadd⟩ := ih acc' r h
      -- the step keeps the methods so far, and adds this one when it generates
      have hstep : (∀ m ∈ acc.1.methods, m ∈ acc'.1.methods) ∧
          ∀ m d, (buildMethod settings n model parent api none >>= generateMethod o) = .ok (m, d) →
            m ∈ acc'.1.methods := by
        unfold generateStep at hs
        cases hb : (buildMethod settings n model parent api none >>= generateMethod o) with
        | ok md =>
          simp only [hb, Except.ok.injEq] at hs
          subst hs
          refine ⟨fun m hm => List.mem_append_left _ hm, ?_⟩
          intro m d hmd
          cases hmd
          exact List.mem_append_right _ (List.mem_singleton_self _)
        | error e =>
          refine ⟨?_, fun m d hmd => by cases hmd⟩
          simp only [hb] at hs
          split at hs
          · simp only [Except.ok.injEq] at hs
            subst hs
            exact fun m hm => hm
          · cases hs
      refine ⟨fun m hm => hkeep m (hstep.1 m hm), ?_⟩
      intro name hname m d hmd
      rcases List.mem_cons.1 hname with rfl | hmem
      · exact hkeep m (hstep.2 m d hmd)
      · exact hadd name hmem m d hmd

/-- For an oracle that answers every question, the import block of a descriptor that
generates after any calls binds every name its code refers to (`BlockBinds`), and the block of
a report does so for every requested method that builds. -/
theorem importBlocks_bind_used_names {o : Oracle} (ho : ∀ q, (o q).isOk) :
    (∀ (cls : MethodClass) (settings : Settings) (model : Model) (d : Descriptor) (cs : List Call),
      Descriptor.create cls settings model = .ok d →
      BlockBinds ((d.callAll o cs).call o .getCode).namespaces ((d.callAll o cs).usedImports o)) ∧
    (∀ (settings : Settings) (model : Model) (methods : List String) (parent : Option Model)
      (api : Bool) (r : Report) (qs : List String),
      generate settings o model methods parent api = .ok (r, qs) →
      ∀ name ∈ (if methods.isEmpty then Method.available api else methods), ∀ d : Descriptor,
        buildMethod settings name model parent api none = .ok d →
        BlockBinds r.namespaces (d.usedImports o)) := by
  refine ⟨fun cls settings model d cs hd => blockBinds_after_getCode hd ho cs, ?_⟩
  intro settings model methods parent api r qs hg name hname d hd
  have hp := buildMethod_parentImported hd
  obtain ⟨m, hm, hns⟩ := generateMethod_of_returns (o := o) (d := d) (by simp [Call.returns, ho])
  -- the method is kept in the report, so its imports are among the report's
  have hkept : m ∈ r.methods := by
    unfold generate at hg
    exact (mem_methods_of_foldlM _ _ _ hg).2 name hname m _ (by rw [hd]; exact hm)
  apply blockBinds_of_subset
  intro q hq
  have hq' := d.usedImports_subset ho hp q hq
  rw [← hns] at hq'
  exact List.mem_flatMap.2 ⟨m, hkept, hq'⟩

/-- A model of users, the parent of posts. -/
def userModel : Model := .cls { qualname := "User", name := "User", tablename := some (.str "users") }

/-- Storing posts under a user, named `publish`, and a run generating the storing method: the
blocks bind the model, the parent, the session, the framework names and the custom request
class. -/
theorem importBlocks_post_store :
    (∀ q, (postRequests q).isOk) ∧
    BlockBinds
      ((postStore.callAll postRequests [.setParent userModel, .setMethodName "publish"]).call
        postRequests .getCode).namespaces
      ((postStore.callAll postRequests [.setParent userModel, .setMethodName "publish"]).usedImports
        postRequests) ∧
    ∃ r qs, generate {} postRequests postModel ["store"] none false = .ok (r, qs) ∧
      BlockBinds r.namespaces (postStore.usedImports postRequests) := by
  have ho : ∀ q, (postRequests q).isOk := fun _ => rfl
  have hd : Descriptor.create (.web .store) {} postModel = .ok postStore := rfl
  have hb : buildMethod {} "store" postModel none false none = .ok postStore := rfl
  obtain ⟨r, qs, hg⟩ : ∃ r qs, generate {} postRequests postModel ["store"] none false =
      .ok (r, qs) := ⟨_, _, rfl⟩
  refine ⟨ho, (importBlocks_bind_used_names ho).1 _ _ _ _ _ hd, r, qs, hg, ?_⟩
  exact (importBlocks_bind_used_names ho).2 _ _ _ _ _ r qs hg "store" (by simp) postStore hb

end CrudScaffold
