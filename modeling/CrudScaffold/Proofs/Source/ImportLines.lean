import CrudScaffold.Source.Imports
import Mathlib.Data.List.Nodup
import Mathlib.Data.List.Sort
import Mathlib.Data.String.Basic

/-!
# What an import block binds

The lines of an import block are read off the qualified names it is given. A name `M.N` with a
non-empty module part `M` is imported by the line of `M`, which lists `N`
(`exists_line_of_module`). A line lists no names only for a name without a module part: it is
then `import N` (`exists_bare_of_names_nil`). Every module has one line and every line lists
its names once (`nodup_modules`, `nodup_names`).
-/

namespace CrudScaffold.Source

open CrudScaffold.Text

/-! ## Sorted sets of texts -/

theorem nodup_eraseDups {α : Type} [BEq α] [LawfulBEq α] : (l : List α) → l.eraseDups.Nodup
  | [] => by simp
  | a :: as => by
    rw [List.eraseDups_cons, List.nodup_cons]
    refine ⟨?_, nodup_eraseDups (as.filter fun b => !b == a)⟩
    simp [List.mem_eraseDups]
termination_by l => l.length
decreasing_by exact Nat.lt_succ_of_le (List.length_filter_le _ _)

@[simp] theorem mem_sortedSet {x : String} {xs : List String} : x ∈ sortedSet xs ↔ x ∈ xs := by
  simp [sortedSet, List.mem_eraseDups]

theorem nodup_sortedSet (xs : List String) : (sortedSet xs).Nodup := nodup_eraseDups _

theorem eraseDups_sublist {α : Type} [BEq α] : (l : List α) → l.eraseDups.Sublist l
  | [] => by simp
  | a :: as => by
    rw [List.eraseDups_cons]
    exact ((eraseDups_sublist (as.filter fun b => !b == a)).trans List.filter_sublist).cons_cons a
termination_by l => l.length
decreasing_by exact Nat.lt_succ_of_le (List.length_filter_le _ _)

theorem pairwise_le_mergeSort (xs : List String) : (xs.mergeSort textLe).Pairwise (· ≤ ·) := by
  have h := @List.pairwise_mergeSort _ textLe
    (fun a b c hab hbc => decide_eq_true (le_trans (of_decide_eq_true hab) (of_decide_eq_true hbc)))
    (fun a b => by simpa [textLe] using le_total a b) xs
  exact h.imp fun hab => of_decide_eq_true hab

/-- A sorted set is in strictly increasing code-point order. -/
theorem pairwise_lt_sortedSet (xs : List String) : (sortedSet xs).Pairwise (· < ·) := by
  have hle : (sortedSet xs).Pairwise (· ≤ ·) :=
    (pairwise_le_mergeSort xs).sublist (eraseDups_sublist _)
  exact (hle.and (nodup_sortedSet xs)).imp fun h => lt_of_le_of_ne h.1 h.2

/-- A sorted set depends only on which texts the list holds. -/
theorem sortedSet_eq_of_mem_iff {xs ys : List String} (h : ∀ x, x ∈ xs ↔ x ∈ ys) :
    sortedSet xs = sortedSet ys :=
  (pairwise_lt_sortedSet xs).eq_of_mem_iff (pairwise_lt_sortedSet ys) (by simpa using h)

/-! ## Modules and names -/

/-- A name with a module part is imported under that module. -/
theorem importModule_of_module {q : String} (h : (splitLast '.' q).1 ≠ "") :
    importModule q = (splitLast '.' q).1 := by
  simp [importModule, h]

/-- A name without a module part is imported as a module of its own. -/
theorem importModule_of_bare {q : String} (h : (splitLast '.' q).1 = "") :
    importModule q = (splitLast '.' q).2 := by
  simp [importModule, h]

theorem mem_importedNames {qs : List String} {m n : String} :
    n ∈ importedNames qs m ↔ ∃ q ∈ qs, splitLast '.' q = (m, n) ∧ m ≠ "" := by
  simp only [importedNames, List.mem_filterMap]
  constructor
  · rintro ⟨q, hq, h⟩
    split at h
    · rename_i hc
      simp only [Option.some.injEq] at h
      simp only [Bool.and_eq_true, Bool.not_eq_true', String.isEmpty_eq_false_iff, beq_iff_eq] at hc
      exact ⟨q, hq, Prod.ext hc.2 h, hc.2 ▸ hc.1⟩
    · cases h
  · rintro ⟨q, hq, hs, hm⟩
    refine ⟨q, hq, ?_⟩
    simp [hs, hm]

theorem mem_importLines {qs : List String} {l : ImportLine} :
    l ∈ importLines qs ↔
      l.module ∈ qs.map importModule ∧ l.names = sortedSet (importedNames qs l.module) := by
  simp only [importLines, List.mem_map, mem_sortedSet]
  constructor
  · rintro ⟨m, hm, rfl⟩
    exact ⟨hm, rfl⟩
  · rintro ⟨hm, hn⟩
    exact ⟨l.module, hm, by rw [← hn]⟩

/-! ## What the lines bind -/

/-- A name with a module part is listed on the line of its module. -/
theorem exists_line_of_module {qs : List String} {q : String} (hq : q ∈ qs)
    (hm : (splitLast '.' q).1 ≠ "") :
    ∃ l ∈ importLines qs, l.module = (splitLast '.' q).1 ∧ (splitLast '.' q).2 ∈ l.names := by
  refine ⟨⟨(splitLast '.' q).1, sortedSet (importedNames qs (splitLast '.' q).1)⟩, ?_, rfl, ?_⟩
  · rw [mem_importLines]
    exact ⟨List.mem_map.2 ⟨q, hq, importModule_of_module hm⟩, rfl⟩
  · rw [mem_sortedSet, mem_importedNames]
    exact ⟨q, hq, rfl, hm⟩

/-- Every name a line lists comes from a qualified name given with that module part. -/
theorem exists_entry_of_mem_names {qs : List String} {l : ImportLine} (hl : l ∈ importLines qs)
    {n : String} (hn : n ∈ l.names) :
    ∃ q ∈ qs, splitLast '.' q = (l.module, n) ∧ l.module ≠ "" := by
  rw [(mem_importLines.1 hl).2, mem_sortedSet, mem_importedNames] at hn
  exact hn

/-- A line without names is `import N` for a name `N` given without a module part. -/
theorem exists_bare_of_names_nil {qs : List String} {l : ImportLine} (hl : l ∈ importLines qs)
    (hn : l.names = []) : ∃ q ∈ qs, splitLast '.' q = ("", l.module) := by
  obtain ⟨hm, hnames⟩ := mem_importLines.1 hl
  obtain ⟨q, hq, hmod⟩ := List.mem_map.1 hm
  by_cases hb : (splitLast '.' q).1 = ""
  · refine ⟨q, hq, Prod.ext hb ?_⟩
    rw [← hmod, importModule_of_bare hb]
  · -- a name with a module part puts its last segment on the line of that module
    have hmem : (splitLast '.' q).2 ∈ l.names := by
      rw [hnames, mem_sortedSet, mem_importedNames, ← hmod, importModule_of_module hb]
      exact ⟨q, hq, rfl, hb⟩
    rw [hn] at hmem
    cases hmem

theorem modules_importLines (qs : List String) :
    (importLines qs).map (·.module) = sortedSet (qs.map importModule) := by
  simp only [importLines, List.map_map, Function.comp_def, List.map_id']

theorem nodup_modules (qs : List String) : ((importLines qs).map (·.module)).Nodup := by
  rw [modules_importLines]
  exact nodup_sortedSet _

theorem nodup_names {qs : List String} {l : ImportLine} (hl : l ∈ importLines qs) :
    l.names.Nodup := by
  rw [(mem_importLines.1 hl).2]
  exact nodup_sortedSet _

/-- The lines come in strictly increasing code-point order of their modules. -/
theorem pairwise_modules (qs : List String) :
    ((importLines qs).map (·.module)).Pairwise (· < ·) := by
  rw [modules_importLines]
  exact pairwise_lt_sortedSet _

theorem pairwise_names {qs : List String} {l : ImportLine} (hl : l ∈ importLines qs) :
    l.names.Pairwise (· < ·) := by
  rw [(mem_importLines.1 hl).2]
  exact pairwise_lt_sortedSet _

theorem mem_modules {qs : List String} {m : String} :
    m ∈ (importLines qs).map (·.module) ↔ m ∈ qs.map importModule := by
  rw [modules_importLines, mem_sortedSet]

/-! ## The block of a list of qualified names -/

/-- What the import block of the qualified names `ns` gives the names `uses`: one line per
module, each listing its names once; names listed only from qualified names with that module
part; `import N` only for a name given without a module part; and every name of `uses` with a
module part listed on the line of its module. -/
structure BlockBinds (ns uses : List String) : Prop where
  modules_nodup : ((importLines ns).map (·.module)).Nodup
  names_nodup : ∀ l ∈ importLines ns, l.names.Nodup
  names_from : ∀ l ∈ importLines ns, ∀ n ∈ l.names,
    ∃ q ∈ ns, splitLast '.' q = (l.module, n) ∧ l.module ≠ ""
  bare_only : ∀ l ∈ importLines ns, l.names = [] → ∃ q ∈ ns, splitLast '.' q = ("", l.module)
  binds : ∀ q ∈ uses, (splitLast '.' q).1 ≠ "" →
    ∃ l ∈ importLines ns, l.module = (splitLast '.' q).1 ∧ (splitLast '.' q).2 ∈ l.names

/-- The block of any qualified names binds every name among them that has a module part. -/
theorem blockBinds_of_subset {ns uses : List String} (h : ∀ q ∈ uses, q ∈ ns) :
    BlockBinds ns uses where
  modules_nodup := nodup_modules ns
  names_nodup _ hl := nodup_names hl
  names_from _ hl _ hn := exists_entry_of_mem_names hl hn
  bare_only _ hl hn := exists_bare_of_names_nil hl hn
  binds q hq hm := exists_line_of_module (h q hq) hm

/-! ## The text of the lines -/

theorem sortedSet_singleton (x : String) : sortedSet [x] = [x] := by
  simp [sortedSet, List.eraseDups_cons]

theorem sortedSet_eq_nil_iff {xs : List String} : sortedSet xs = [] ↔ xs = [] := by
  simp only [List.eq_nil_iff_forall_not_mem, mem_sortedSet]

/-- A line that lists names is a `from` line. -/
theorem render_of_names_ne_nil {l : ImportLine} (h : l.names ≠ []) :
    l.render = "from " ++ l.module ++ " import " ++ ", ".intercalate l.names := by
  simp [ImportLine.render, h]

/-- `import n` is the text of one line only: that of module `n` without names. -/
theorem render_eq_import_iff {l : ImportLine} {n : String} :
    l.render = "import " ++ n ↔ l = ⟨n, []⟩ := by
  constructor
  · intro h
    by_cases hn : l.names = []
    · have hm : l.module = n := by simpa [ImportLine.render, hn] using h
      cases l
      simp_all
    · -- a `from` line starts with another letter
      rw [render_of_names_ne_nil hn] at h
      have := congrArg (fun s => s.toList.head?) h
      simp at this
  · rintro rfl
    rfl

theorem importedNames_eq_nil_iff {qs : List String} {m : String} :
    importedNames qs m = [] ↔ ∀ q ∈ qs, (splitLast '.' q).1 = m → m = "" := by
  rw [List.eq_nil_iff_forall_not_mem]
  simp only [mem_importedNames, not_exists, not_and]
  constructor
  · intro h q hq hm
    by_contra hne
    exact h _ q hq (Prod.ext hm rfl) hne
  · intro h n q hq hs hne
    exact hne (h q hq (congrArg Prod.fst hs))

/-- A name given without a module part has its own `import` line exactly when it is no
other name's module part: otherwise the two share the module's line, which imports from it. -/
theorem import_line_iff {qs : List String} {q : String} (hq : q ∈ qs)
    (hb : (splitLast '.' q).1 = "") :
    "import " ++ (splitLast '.' q).2 ∈ (importLines qs).map ImportLine.render ↔
      ∀ q' ∈ qs, (splitLast '.' q').1 = (splitLast '.' q).2 → (splitLast '.' q).2 = "" := by
  have hmod : (splitLast '.' q).2 ∈ qs.map importModule :=
    List.mem_map.2 ⟨q, hq, importModule_of_bare hb⟩
  rw [← importedNames_eq_nil_iff, List.mem_map]
  simp only [render_eq_import_iff, exists_eq_right]
  rw [mem_importLines, and_iff_right hmod, eq_comm, sortedSet_eq_nil_iff]

/-! ## Which entries the block imports -/

/-- The import lines of any list of qualified names: `m.n` is listed on the line of `m`, a bare
`n` is imported exactly when it is no other name's module part, modules and names come in
strictly increasing order, and every line comes from a given name. -/
theorem importLines_cover_entries (ns : List String) :
    (∀ q ∈ ns, (splitLast '.' q).1 ≠ "" → ∃ l ∈ importLines ns,
      l.render = "from " ++ (splitLast '.' q).1 ++ " import " ++ ", ".intercalate l.names ∧
        (splitLast '.' q).2 ∈ l.names) ∧
    (∀ q ∈ ns, (splitLast '.' q).1 = "" →
      ("import " ++ (splitLast '.' q).2 ∈ (importLines ns).map ImportLine.render ↔
        ∀ q' ∈ ns, (splitLast '.' q').1 = (splitLast '.' q).2 → (splitLast '.' q).2 = "")) ∧
    (∀ m, m ∈ (importLines ns).map (·.module) ↔ m ∈ ns.map importModule) ∧
    ((importLines ns).map (·.module)).Pairwise (· < ·) ∧
    (∀ l ∈ importLines ns, l.names.Pairwise (· < ·)) ∧
    (∀ l ∈ importLines ns, ∀ n ∈ l.names, ∃ q ∈ ns, splitLast '.' q = (l.module, n)) := by
  refine ⟨?_, fun q hq hb => import_line_iff hq hb, fun _ => mem_modules, pairwise_modules ns,
    fun _ hl => pairwise_names hl, ?_⟩
  · intro q hq hm
    obtain ⟨l, hl, hmod, hn⟩ := exists_line_of_module hq hm
    have hne : l.names ≠ [] := List.ne_nil_of_mem hn
    exact ⟨l, hl, by rw [render_of_names_ne_nil hne, hmod], hn⟩
  · intro l hl n hn
    obtain ⟨q, hq, hs, -⟩ := exists_entry_of_mem_names hl hn
    exact ⟨q, hq, hs⟩

/-- A bare `fastapi` next to `fastapi.Depends` gets no `import fastapi` line: the block is the
single line `from fastapi import Depends`. -/
theorem bare_module_shadowed :
    "fastapi" ∈ ["fastapi", "fastapi.Depends"] ∧ (splitLast '.' "fastapi").1 = "" ∧
      "import fastapi" ∉ (importLines ["fastapi", "fastapi.Depends"]).map ImportLine.render ∧
      importBlock ["fastapi", "fastapi.Depends"] = "from fastapi import Depends" := by
  have hbare : splitLast '.' "fastapi" = ("", "fastapi") := by decide
  have hdot : splitLast '.' "fastapi.Depends" = ("fastapi", "Depends") := by decide
  have hlines : importLines ["fastapi", "fastapi.Depends"] = [⟨"fastapi", ["Depends"]⟩] := by
    -- both names are imported under `fastapi`, and only the dotted one lists a name
    have hmods : sortedSet (["fastapi", "fastapi.Depends"].map importModule) = ["fastapi"] := by
      rw [@sortedSet_eq_of_mem_iff _ ["fastapi"] (by simp [importModule, hbare, hdot]),
        sortedSet_singleton]
    have hnames : importedNames ["fastapi", "fastapi.Depends"] "fastapi" = ["Depends"] := by
      decide
    rw [importLines, hmods, List.map_singleton, hnames, sortedSet_singleton]
  refine ⟨by simp, by rw [hbare], ?_, ?_⟩
  · rw [hlines]
    simp [ImportLine.render]
  · rw [importBlock, hlines]
    simp [ImportLine.render]

end CrudScaffold.Source
