import CrudScaffold.Proofs.Descriptor.QueryLog

/-!
# Generating again gives the same code

What generating gives depends on the descriptor only through its class, settings, model,
request folder, parent and method name. The imports gathered so far, the identifiers of an
earlier preparation and the number of earlier generations play no part: preparing computes the
identifiers afresh each time, and the template reads nothing else.

`Descriptor.Generates o d r` says what one generation on `d` gives: the code or the failure of
`r`, with the imports and questions of `r` appended to those `d` had; a generation that fails
appends too, what it appended before failing. `Descriptor.outcome` is that result, computed
from the parts listed above (`generates_outcome`, `outcome_congr`).

Since no call changes the class, settings, model or request folder, two runs of calls that
leave the same parent and method name are followed by the same generation
(`generates_of_same_parent_methodName`); in particular generating right after generating gives
the same code and appends the same imports again (`generates_getCode_again`).
-/

namespace CrudScaffold.Method

namespace Descriptor

/-- One generation on `d` gives `r.1`, its code or its failure, and appends imports `r.2.1` and
questions `r.2.2`, whether it returns or fails. -/
def Generates (o : Oracle) (d : Descriptor) (r : Except Failure String × List String × List String) :
    Prop :=
  match (code o).run d with
  | .ok s e => r.1 = .ok s ∧ e.namespaces = d.namespaces ++ r.2.1 ∧ e.queries = d.queries ++ r.2.2
  | .error x e =>
    r.1 = .error x ∧ e.namespaces = d.namespaces ++ r.2.1 ∧ e.queries = d.queries ++ r.2.2

/-- What generating gives, from the parts of the descriptor the template reads. -/
def outcome (o : Oracle) (d : Descriptor) : Except Failure String × List String × List String :=
  if d.cls.mode = .none then (.ok "", [], []) else
    match d.strategy o with
    | .ok g => (.ok g.code, d.prepImports ++ g.namespaces, g.queries)
    | .error e => (.error e, d.prepImports, [d.requestQuery])

theorem generates_outcome (o : Oracle) (d : Descriptor) : d.Generates o (d.outcome o) := by
  unfold Generates outcome
  rw [code_run]
  by_cases hm : d.cls.mode = .none
  · simp [hm]
  · simp only [hm, if_false]
    cases d.strategy o with
    | error e => simp [afterFailure]
    | ok g => simp [afterCode]

/-- Two descriptors that agree on class, settings, model, request folder, parent and method
name generate alike. -/
theorem outcome_congr (o : Oracle) {d₁ d₂ : Descriptor} (hc : d₁.cls = d₂.cls)
    (hs : d₁.settings = d₂.settings) (hmod : d₁.model = d₂.model)
    (hf : d₁.requestFolder = d₂.requestFolder) (hp : d₁.parent = d₂.parent)
    (hm : d₁.methodName = d₂.methodName) : d₁.outcome o = d₂.outcome o := by
  simp only [outcome, strategy, request, requestQuery, candidate, template, prepImports,
    baseImports, context, fresh, hc, hs, hmod, hf, hp, hm]

/-- Generating leaves the parent and the method name as they were. -/
theorem call_getCode_parent (o : Oracle) (d : Descriptor) :
    (d.call o .getCode).parent = d.parent ∧ (d.call o .getCode).methodName = d.methodName := by
  exact ⟨by rw [call_parent], by rw [methodName_call]⟩

/-- Generating right after generating gives the same code and appends the same imports and
questions a second time; when the first fails, so does the second. -/
theorem generates_getCode_again (o : Oracle) (d : Descriptor) :
    ∃ r, d.Generates o r ∧ (d.call o .getCode).Generates o r := by
  obtain ⟨hp, hm⟩ := call_getCode_parent o d
  have h : (d.call o .getCode).outcome o = d.outcome o :=
    outcome_congr o (call_cls o d _) (call_settings o d _) (call_model o d _)
      (call_requestFolder o d _) hp hm
  refine ⟨d.outcome o, generates_outcome o d, ?_⟩
  rw [← h]
  exact generates_outcome o _

end Descriptor

/-- Two runs of calls on a descriptor that leave it with the same parent (or none) and the same
method name are followed by the same generation: the same code, the same imports appended and
the same questions asked, or the same failure. What generating gives does not depend on the
imports gathered, on earlier preparations or on earlier generations. -/
theorem generates_of_same_parent_methodName (o : Oracle) (d : Descriptor) (cs₁ cs₂ : List Call)
    (hp : (d.callAll o cs₁).parent = (d.callAll o cs₂).parent)
    (hm : (d.callAll o cs₁).methodName = (d.callAll o cs₂).methodName) :
    ∃ r, (d.callAll o cs₁).Generates o r ∧ (d.callAll o cs₂).Generates o r := by
  -- no call changes the class, settings, model or request folder
  have h : (d.callAll o cs₁).outcome o = (d.callAll o cs₂).outcome o := by
    apply Descriptor.outcome_congr o _ _ _ _ hp hm <;>
      simp only [Descriptor.callAll_cls, Descriptor.callAll_settings, Descriptor.callAll_model,
        Descriptor.callAll_requestFolder]
  refine ⟨(d.callAll o cs₁).outcome o, Descriptor.generates_outcome o _, ?_⟩
  rw [h]
  exact Descriptor.generates_outcome o _

/-- Generating the post-storing method at once, or after generating, preparing, adding an import,
setting its default name again and generating once more, gives the same next generation. -/
theorem regenerates_post_store :
    (postStore.callAll postRequests []).parent =
      (postStore.callAll postRequests
        [.getCode, .beforeGenerate, .addNamespace ["app.extra.Helper"], .setMethodName "store",
          .getCode]).parent ∧
    (postStore.callAll postRequests []).methodName =
      (postStore.callAll postRequests
        [.getCode, .beforeGenerate, .addNamespace ["app.extra.Helper"], .setMethodName "store",
          .getCode]).methodName ∧
    ∃ r, (postStore.callAll postRequests []).Generates postRequests r ∧
      (postStore.callAll postRequests
        [.getCode, .beforeGenerate, .addNamespace ["app.extra.Helper"], .setMethodName "store",
          .getCode]).Generates postRequests r :=
  ⟨rfl, rfl, generates_of_same_parent_methodName postRequests postStore [] _ rfl rfl⟩

end CrudScaffold.Method
