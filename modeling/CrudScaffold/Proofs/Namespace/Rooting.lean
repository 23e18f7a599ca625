import CrudScaffold.Method.Api

/-!
# Rooted namespaces

A namespace lies under a root when it is the root or starts with the root and a dot
(`Rooted`). The test is made at a segment boundary, so `shopping.cart` does not lie under
`shop`. Placing a namespace under the root (`fullNamespace`) keeps a rooted namespace as it
is, gives the root for an empty namespace, and otherwise puts the root and one dot before it
(`fullNamespace_eq`). What it gives lies under the root (`rooted_fullNamespace`), so placing it
again changes nothing (`fullNamespace_fullNamespace`).

The request namespaces and the namespace of API response resources are placed this way. A
configured value that already lies under the root, such as one computed by an earlier
placing, passes through unchanged (`requestRoot_of_rooted`, `resourceImport_of_rooted`).
-/

namespace CrudScaffold.Namespace

/-- A namespace lies under a root: it is the root, or the root and a dot start it. -/
def Rooted (root ns : String) : Prop := ns = root ∨ ∃ rest, ns = root ++ "." ++ rest

/-- `Rooted` is the test that placing a namespace makes. -/
theorem rooted_iff_test (root ns : String) :
    Rooted root ns ↔ (ns == root || (root ++ ".").isPrefixOf ns) = true := by
  simp only [Rooted, Bool.or_eq_true, beq_iff_eq, String.isPrefixOf,
    String.startsWith_string_iff]
  refine or_congr Iff.rfl ⟨?_, ?_⟩
  · rintro ⟨rest, rfl⟩
    exact ⟨rest.toList, by simp⟩
  · rintro ⟨t, ht⟩
    refine ⟨String.ofList t, ?_⟩
    rw [String.ext_iff, ← ht]
    simp

instance (root ns : String) : Decidable (Rooted root ns) :=
  decidable_of_iff _ (rooted_iff_test root ns).symm

theorem rooted_self (root : String) : Rooted root root := .inl rfl

theorem rooted_append (root rest : String) : Rooted root (root ++ "." ++ rest) := .inr ⟨rest, rfl⟩

/-- Only the empty root has the empty namespace under it. -/
theorem eq_empty_of_rooted_empty {root : String} (h : Rooted root "") : root = "" := by
  rcases h with h | ⟨rest, h⟩
  · exact h.symm
  · -- the root and a dot are at least one character long
    have := congrArg String.toList h
    simp at this

/-- What placing a namespace under the root gives, case by case. -/
theorem fullNamespace_eq (root ns : String) : fullNamespace root ns =
    if root = "" then ns
    else if ns = "" then root
    else if Rooted root ns then ns
    else root ++ "." ++ ns := by
  by_cases hr : root = ""
  · subst hr
    simp [fullNamespace_empty_root]
  · by_cases hn : ns = ""
    · subst hn
      simp [fullNamespace, hr]
    · have hr' : root.isEmpty = false := by simpa [String.isEmpty_iff] using hr
      have hn' : ns.isEmpty = false := by simpa [String.isEmpty_iff] using hn
      simp only [fullNamespace, hr', hn', Bool.or_false, Bool.false_eq_true, if_false, hr, hn]
      by_cases h : Rooted root ns
      · rw [if_pos ((rooted_iff_test root ns).1 h), if_pos h]
      · rw [if_neg (mt (rooted_iff_test root ns).2 h), if_neg h]

theorem fullNamespace_empty (root : String) : fullNamespace root "" = root := by
  rw [fullNamespace_eq]
  split <;> simp_all

/-- A namespace under the root, or any namespace when there is no root, is kept. -/
theorem fullNamespace_of_rooted {root ns : String} (h : root = "" ∨ Rooted root ns) :
    fullNamespace root ns = ns := by
  rw [fullNamespace_eq]
  rcases h with hr | h
  · simp [hr]
  · by_cases hn : ns = ""
    · subst hn
      simp [eq_empty_of_rooted_empty h]
    · simp [hn, h]

/-- A non-empty namespace that is not under a non-empty root gets the root and one dot in
front, and nothing more. -/
theorem fullNamespace_of_not_rooted {root ns : String} (hr : root ≠ "") (hn : ns ≠ "")
    (h : ¬ Rooted root ns) : fullNamespace root ns = root ++ "." ++ ns := by
  rw [fullNamespace_eq]
  simp [hr, hn, h]

/-- Under a non-empty root, what placing gives lies under the root. -/
theorem rooted_fullNamespace {root : String} (hr : root ≠ "") (ns : String) :
    Rooted root (fullNamespace root ns) := by
  by_cases hn : ns = ""
  · subst hn
    rw [fullNamespace_empty]
    exact rooted_self root
  · by_cases h : Rooted root ns
    · rwa [fullNamespace_of_rooted (.inr h)]
    · rw [fullNamespace_of_not_rooted hr hn h]
      exact rooted_append root ns

/-- Placing a namespace twice is placing it once. -/
theorem fullNamespace_fullNamespace (root ns : String) :
    fullNamespace root (fullNamespace root ns) = fullNamespace root ns := by
  by_cases hr : root = ""
  · exact fullNamespace_of_rooted (.inl hr)
  · exact fullNamespace_of_rooted (.inr (rooted_fullNamespace hr ns))

/-- A configured request namespace that already lies under the root is used as it is. -/
theorem requestRoot_of_rooted {s : Config.Settings} {api : Bool}
    (h : s.rootNamespace = "" ∨
      Rooted s.rootNamespace (if api then s.request.apiNamespace else s.request.webNamespace)) :
    requestRoot s api = if api then s.request.apiNamespace else s.request.webNamespace :=
  fullNamespace_of_rooted h

end CrudScaffold.Namespace

namespace CrudScaffold.Method.Context

open CrudScaffold.Namespace

/-- A configured resource namespace that already lies under the root is used as it is. -/
theorem resourceImport_of_rooted {c : Context}
    (h : c.settings.rootNamespace = "" ∨
      Rooted c.settings.rootNamespace c.settings.api.resourceNamespace) :
    c.resourceImport = qualify [c.settings.api.resourceNamespace, c.resourceClass] := by
  rw [resourceImport, fullNamespace_of_rooted h]

end CrudScaffold.Method.Context

namespace CrudScaffold.Namespace

/-- Placing a namespace under a root is idempotent and never puts the root in front twice: it
keeps a namespace already under the root (at a segment boundary), gives the root for the empty
namespace, and puts the root and one dot before any other. -/
theorem fullNamespace_roots_once :
    (∀ root ns, fullNamespace root (fullNamespace root ns) = fullNamespace root ns) ∧
    (∀ root ns, root ≠ "" → Rooted root (fullNamespace root ns)) ∧
    (∀ root ns, root = "" ∨ Rooted root ns → fullNamespace root ns = ns) ∧
    (∀ root, fullNamespace root "" = root) ∧
    (∀ root ns, root ≠ "" → ns ≠ "" → ¬ Rooted root ns →
      fullNamespace root ns = root ++ "." ++ ns) ∧
    (∀ (s : Config.Settings) (api : Bool),
      fullNamespace s.rootNamespace (requestRoot s api) = requestRoot s api ∧
      (s.rootNamespace = "" ∨
          Rooted s.rootNamespace (if api then s.request.apiNamespace else s.request.webNamespace) →
        requestRoot s api = if api then s.request.apiNamespace else s.request.webNamespace)) ∧
    (∀ c : Method.Context,
      c.settings.rootNamespace = "" ∨
          Rooted c.settings.rootNamespace c.settings.api.resourceNamespace →
        c.resourceImport = qualify [c.settings.api.resourceNamespace, c.resourceClass]) :=
  ⟨fullNamespace_fullNamespace, fun _ _ hr => rooted_fullNamespace hr _,
    fun _ _ => fullNamespace_of_rooted, fullNamespace_empty,
    fun _ _ => fullNamespace_of_not_rooted,
    fun _ _ => ⟨fullNamespace_fullNamespace _ _, requestRoot_of_rooted⟩,
    fun _ => Method.Context.resourceImport_of_rooted⟩

/-- `shopping.cart` does not lie under `shop`. -/
example : fullNamespace "shop" "shopping.cart" = "shop.shopping.cart" := by
  simp [fullNamespace, String.isPrefixOf, String.startsWith_string_iff]

end CrudScaffold.Namespace
