import CrudScaffold.Proofs.Source.ImportLines
import CrudScaffold.Report

/-!
# Import blocks forget order and repetition

The import block of a list of qualified names depends only on which names the list holds:
every module and every name list of the block is a sorted set, and a sorted set is fixed by
its members (`sortedSet_eq_of_mem_iff`). So reordering the names, or repeating some, leaves
the block as it is (`importBlock_congr`). For a generation report this means that the block,
and with it the import part of the rendered report, stays the same when the methods are
reordered or their imports repeated (`importBlock_ignores_order_and_repeats`).
-/

namespace CrudScaffold.Source

theorem importedNames_congr {qs qs' : List String} (h : ∀ q, q ∈ qs ↔ q ∈ qs') (m : String)
    (n : String) : n ∈ importedNames qs m ↔ n ∈ importedNames qs' m := by
  simp only [mem_importedNames, h]

theorem importLines_congr {qs qs' : List String} (h : ∀ q, q ∈ qs ↔ q ∈ qs') :
    importLines qs = importLines qs' := by
  have hmods : sortedSet (qs.map importModule) = sortedSet (qs'.map importModule) :=
    sortedSet_eq_of_mem_iff fun m => by simp only [List.mem_map, h]
  have hnames : ∀ m, sortedSet (importedNames qs m) = sortedSet (importedNames qs' m) :=
    fun m => sortedSet_eq_of_mem_iff (importedNames_congr h m)
  simp only [importLines, hmods, hnames]

/-- The block of qualified names depends only on which names there are. -/
theorem importBlock_congr {qs qs' : List String} (h : ∀ q, q ∈ qs ↔ q ∈ qs') :
    importBlock qs = importBlock qs' := by
  rw [importBlock, importBlock, importLines_congr h]

end CrudScaffold.Source

namespace CrudScaffold.Report

open CrudScaffold.Source

/-- The import part of a rendered report: its import block, left out when empty. -/
def importPart (r : Report) : List String := if r.importBlock.isEmpty then [] else [r.importBlock]

/-- The code parts of a rendered report: the code of every method that has any, in order. -/
def codeParts (r : Report) : List String := (r.methods.filter (!·.isEmpty)).map (·.code)

theorem render_eq (r : Report) :
    r.render = "\n\n".intercalate (r.importPart ++ r.codeParts) ++ "\n" := rfl

theorem importBlock_congr {r r' : Report} (h : ∀ q, q ∈ r.namespaces ↔ q ∈ r'.namespaces) :
    r.importBlock = r'.importBlock :=
  Source.importBlock_congr h

theorem mem_namespaces_of_perm {r r' : Report} (h : r.methods.Perm r'.methods) (q : String) :
    q ∈ r.namespaces ↔ q ∈ r'.namespaces := by
  simp only [namespaces, List.mem_flatMap]
  exact ⟨fun ⟨m, hm, hq⟩ => ⟨m, h.subset hm, hq⟩, fun ⟨m, hm, hq⟩ => ⟨m, h.symm.subset hm, hq⟩⟩

end CrudScaffold.Report

namespace CrudScaffold

open CrudScaffold.Source

/-- The import block of qualified names ignores their order and repetitions, and so does a
report's import block and the import part of its rendering: the rendered report is its import
part followed by its code parts, and the import part is the same for any two reports whose
methods import the same names, in particular for a report whose methods are reordered. -/
theorem importBlock_ignores_order_and_repeats :
    (∀ ns₁ ns₂ : List String, (∀ q, q ∈ ns₁ ↔ q ∈ ns₂) → importBlock ns₁ = importBlock ns₂) ∧
    (∀ ns : List String, importBlock (ns ++ ns) = importBlock ns) ∧
    (∀ r : Report, r.render = "\n\n".intercalate (r.importPart ++ r.codeParts) ++ "\n") ∧
    (∀ r r' : Report, (∀ q, q ∈ r.namespaces ↔ q ∈ r'.namespaces) →
      r.importBlock = r'.importBlock ∧ r.importPart = r'.importPart) ∧
    (∀ r r' : Report, r.methods.Perm r'.methods →
      r.importBlock = r'.importBlock ∧ r.importPart = r'.importPart) := by
  -- the import part is read off the import block alone
  have hpart : ∀ r r' : Report, (∀ q, q ∈ r.namespaces ↔ q ∈ r'.namespaces) →
      r.importBlock = r'.importBlock ∧ r.importPart = r'.importPart := by
    intro r r' h
    have hb := Report.importBlock_congr h
    exact ⟨hb, by rw [Report.importPart, Report.importPart, hb]⟩
  refine ⟨fun _ _ => importBlock_congr, fun ns => importBlock_congr fun q => ?_,
    Report.render_eq, hpart, fun r r' h => hpart r r' (Report.mem_namespaces_of_perm h)⟩
  rw [List.mem_append, or_self]

end CrudScaffold
