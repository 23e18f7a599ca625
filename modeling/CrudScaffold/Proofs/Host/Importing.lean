import CrudScaffold.Model.Host
import CrudScaffold.Proofs.Namespace.Rooting
import CrudScaffold.Proofs.Command.Failures

/-!
# Importing a module

Importing a module imports, outermost first, every module it lies under and then itself
(`importChain`, `mem_importChain`): the modules of its chain are exactly those under which
it is rooted. Each module of the chain either imports by itself (`Host.Loads`: it was imported
before, it is described and holds objects, or it is a package above a described module) or
fails with one failure (`Host.FailsWith`: it is missing, it needs a missing module, or it
raises an import error), never both (`Host.loads_or_failsWith`, `Host.not_loads_of_failsWith`).

One step of the import is said once (`Host.importOne_of_loads`, `Host.importOne_of_failsWith`)
and a run over the chain follows by induction: the import succeeds when every module of the
chain loads, adding those not imported before (`Host.importModule_eq_ok_iff`), and otherwise
fails with the failure of the first module of the chain that does not load
(`Host.importModule_eq_error_iff`). A name that starts with a dot is refused first.
-/

namespace CrudScaffold

open CrudScaffold.Namespace

/-! ## The chain of a module -/

namespace Host

theorem toList_importChain_prefix {cs : List Char} {i : Nat} (hi : i < cs.length)
    (hd : cs[i]? = some '.') :
    cs = (cs.take i) ++ '.' :: cs.drop (i + 1) := by
  have hget : cs[i] = '.' := by simpa [List.getElem?_eq_getElem hi] using hd
  calc cs = cs.take i ++ cs.drop i := (List.take_append_drop i cs).symm
    _ = _ := by rw [List.drop_eq_getElem_cons hi, hget]

/-- The modules imported for a module are the module and the packages it lies under. -/
theorem mem_importChain {n m : String} : n ∈ importChain m ↔ Rooted n m := by
  simp only [importChain, List.mem_append, List.mem_map, List.mem_filter, List.mem_range,
    List.mem_singleton, decide_eq_true_eq, Rooted]
  constructor
  · rintro (⟨i, ⟨hi, hd⟩, rfl⟩ | rfl)
    · -- cut before a dot: the rest after that dot remains
      refine .inr ⟨String.ofList (m.toList.drop (i + 1)), ?_⟩
      rw [String.ext_iff]
      simpa using toList_importChain_prefix hi hd
    · exact .inl rfl
  · rintro (rfl | ⟨rest, rfl⟩)
    · exact .inr rfl
    · have hlen : n.toList.length = n.length := String.length_toList
      refine .inl ⟨n.length, ⟨?_, ?_⟩, ?_⟩
      · have : (n ++ "." ++ rest).toList.length = n.length + 1 + rest.toList.length := by
          simp [hlen]
          omega
        omega
      · simp [← hlen]
      · rw [String.ext_iff]
        simp [← hlen]

/-- Each module of the chain is longer than the one before it. -/
theorem pairwise_length_importChain (m : String) :
    (importChain m).Pairwise (fun a b => a.length < b.length) := by
  unfold importChain
  rw [List.pairwise_append]
  refine ⟨?_, by simp, ?_⟩
  · -- the cuts are taken at increasing positions
    rw [List.pairwise_map]
    refine (List.pairwise_lt_range.filter _).imp_of_mem fun ha hb hab => ?_
    simp only [List.mem_filter, List.mem_range] at ha hb
    simp [String.length_ofList, Nat.min_eq_left (Nat.le_of_lt ha.1),
      Nat.min_eq_left (Nat.le_of_lt hb.1), hab]
  · intro a ha b hb
    simp only [List.mem_map, List.mem_filter, List.mem_range] at ha
    obtain ⟨i, ⟨hi, _⟩, rfl⟩ := ha
    have hlen : m.toList.length = m.length := String.length_toList
    rw [List.mem_singleton.1 hb, String.length_ofList, List.length_take]
    omega

theorem nodup_importChain (m : String) : (importChain m).Nodup :=
  (pairwise_length_importChain m).imp fun h heq => by rw [heq] at h; exact Nat.lt_irrefl _ h

/-! ## One module -/

variable (h : Host)

/-- A module that imports by itself once the packages above it are imported: one imported
before, a described module that holds objects, or a package above a described module. -/
def Loads (c : String) : Prop :=
  c ∈ h.loaded ∨ (∃ es, h.body? c = some (.objects es)) ∨ (h.body? c = none ∧ h.isPackage c = true)

/-- Importing a module by itself fails with a failure. -/
inductive FailsWith (c : String) : Failure → Prop
  | missing : c ∉ h.loaded → h.body? c = none → h.isPackage c = false →
      FailsWith c (.moduleNotFound (some c))
  | broken {n : Option String} : c ∉ h.loaded → h.body? c = some (.broken n) →
      FailsWith c (.moduleNotFound n)
  | failing {t : String} : c ∉ h.loaded → h.body? c = some (.failing t) →
      FailsWith c (.importFailed t)

variable {h}

theorem loads_or_failsWith (c : String) : h.Loads c ∨ ∃ e, h.FailsWith c e := by
  by_cases hl : c ∈ h.loaded
  · exact .inl (.inl hl)
  · cases hb : h.body? c with
    | some b =>
      cases b with
      | objects es => exact .inl (.inr (.inl ⟨es, hb⟩))
      | broken n => exact .inr ⟨_, .broken hl hb⟩
      | failing t => exact .inr ⟨_, .failing hl hb⟩
    | none =>
      cases hp : h.isPackage c with
      | true => exact .inl (.inr (.inr ⟨hb, hp⟩))
      | false => exact .inr ⟨_, .missing hl hb hp⟩

theorem not_loads_of_failsWith {c : String} {e : Failure} (hf : h.FailsWith c e) :
    ¬ h.Loads c := by
  rintro (hl | ⟨es, hb⟩ | ⟨hb, hp⟩) <;> cases hf <;> simp_all

/-- A module fails in one way only. -/
theorem FailsWith.unique {c : String} {e e' : Failure} (hf : h.FailsWith c e)
    (hf' : h.FailsWith c e') : e = e' := by
  cases hf <;> cases hf' <;> simp_all

section Step

variable {loaded : List String} {c : String}

/-- A module of the chain imports alike with the modules imported so far as with those
imported before the run, as long as it is not among those the run added. -/
theorem importOne_of_loads (hc : c ∈ loaded ↔ c ∈ h.loaded) (hl : h.Loads c) :
    h.importOne loaded c = .ok (if c ∈ h.loaded then loaded else loaded ++ [c]) := by
  unfold importOne
  by_cases hin : c ∈ h.loaded
  · simp [hc.2 hin, hin]
  · rcases hl with hl | ⟨es, hb⟩ | ⟨hb, hp⟩
    · exact absurd hl hin
    · simp [hc, hin, hb]
    · simp [hc, hin, hb, hp]

theorem importOne_of_failsWith (hc : c ∈ loaded ↔ c ∈ h.loaded) {e : Failure}
    (hf : h.FailsWith c e) : h.importOne loaded c = .error e := by
  unfold importOne
  cases hf with
  | missing hin hb hp => simp [hc, hin, hb, hp]
  | broken hin hb => simp [hc, hin, hb]
  | failing hin hb => simp [hc, hin, hb]

theorem loads_of_importOne_ok (hc : c ∈ loaded ↔ c ∈ h.loaded) {loaded' : List String}
    (hok : h.importOne loaded c = .ok loaded') : h.Loads c := by
  rcases loads_or_failsWith c with hl | ⟨e, hf⟩
  · exact hl
  · rw [importOne_of_failsWith hc hf] at hok
    cases hok

end Step

/-! ## A run over the chain -/

section Run

/-- Modules of the chain not yet reached are imported so far exactly when they were imported
before the run. -/
def Fresh (h : Host) (loaded cs : List String) : Prop := ∀ c ∈ cs, c ∈ loaded ↔ c ∈ h.loaded

theorem fresh_step {loaded cs : List String} {c : String} (hnd : (c :: cs).Nodup)
    (hf : h.Fresh loaded (c :: cs)) :
    h.Fresh (if c ∈ h.loaded then loaded else loaded ++ [c]) cs := by
  intro c' hc'
  have hne : c' ≠ c := fun heq => (List.nodup_cons.1 hnd).1 (heq ▸ hc')
  have := hf c' (List.mem_cons_of_mem _ hc')
  split <;> simp [this, hne]

/-- A run over distinct modules succeeds when every module loads, adding in order those not
imported before. -/
theorem foldlM_importOne_of_loads :
    ∀ {cs loaded : List String}, cs.Nodup → h.Fresh loaded cs → (∀ p ∈ cs, h.Loads p) →
      cs.foldlM h.importOne loaded = .ok (loaded ++ cs.filter (fun p => p ∉ h.loaded))
  | [], _, _, _, _ => by simp [pure, Except.pure]
  | c :: cs, loaded, hnd, hf, hl => by
    rw [List.foldlM_cons, importOne_of_loads (hf c (by simp)) (hl c (by simp))]
    show List.foldlM _ _ cs = _
    rw [foldlM_importOne_of_loads (List.nodup_cons.1 hnd).2 (fresh_step hnd hf)
      fun p hp => hl p (List.mem_cons_of_mem _ hp)]
    by_cases hin : c ∈ h.loaded <;> simp [hin]

theorem loads_of_foldlM_importOne :
    ∀ {cs loaded loaded' : List String}, cs.Nodup → h.Fresh loaded cs →
      cs.foldlM h.importOne loaded = .ok loaded' → ∀ p ∈ cs, h.Loads p
  | [], _, _, _, _, _ => by simp
  | c :: cs, loaded, loaded', hnd, hf, hok => by
    rw [List.foldlM_cons, bind_eq_ok] at hok
    obtain ⟨l, hl, hrest⟩ := hok
    have hc := hf c (by simp)
    have hlc := loads_of_importOne_ok hc hl
    rw [importOne_of_loads hc hlc, Except.ok.injEq] at hl
    subst hl
    intro p hp
    rcases List.mem_cons.1 hp with rfl | hp
    · exact hlc
    · exact loads_of_foldlM_importOne (List.nodup_cons.1 hnd).2 (fresh_step hnd hf) hrest p hp

/-- The first module of a list that does not load is its head, or, after a head that loads,
the first of its tail. -/
theorem exists_first_failsWith_cons {c : String} {cs : List String} {e : Failure} :
    (∃ l₁ c' l₂, c :: cs = l₁ ++ c' :: l₂ ∧ (∀ p ∈ l₁, h.Loads p) ∧ h.FailsWith c' e) ↔
      h.FailsWith c e ∨
        (h.Loads c ∧ ∃ l₁ c' l₂, cs = l₁ ++ c' :: l₂ ∧ (∀ p ∈ l₁, h.Loads p) ∧ h.FailsWith c' e) := by
  constructor
  · rintro ⟨l₁, c', l₂, hcs, hl₁, hfc'⟩
    cases l₁ with
    | nil =>
      cases hcs
      exact .inl hfc'
    | cons p l₁ =>
      cases hcs
      exact .inr ⟨hl₁ c (by simp), l₁, c', l₂, rfl, fun q hq => hl₁ q (List.mem_cons_of_mem _ hq),
        hfc'⟩
  · rintro (hfc | ⟨hlc, l₁, c', l₂, rfl, hl₁, hfc'⟩)
    · exact ⟨[], c, cs, rfl, by simp, hfc⟩
    · refine ⟨c :: l₁, c', l₂, rfl, ?_, hfc'⟩
      intro p hp
      rcases List.mem_cons.1 hp with rfl | hp
      · exact hlc
      · exact hl₁ p hp

/-- A run over distinct modules fails exactly with the failure of the first module that does
not load. -/
theorem foldlM_importOne_eq_error_iff {e : Failure} :
    ∀ {cs loaded : List String}, cs.Nodup → h.Fresh loaded cs →
      (cs.foldlM h.importOne loaded = .error e ↔
        ∃ l₁ c l₂, cs = l₁ ++ c :: l₂ ∧ (∀ p ∈ l₁, h.Loads p) ∧ h.FailsWith c e)
  | [], _, _, _ => by simp [pure, Except.pure]
  | c :: cs, loaded, hnd, hf => by
    have hc := hf c (by simp)
    rw [List.foldlM_cons, exists_first_failsWith_cons]
    rcases loads_or_failsWith (h := h) c with hlc | ⟨e', hfc⟩
    · -- the first module loads: the failure is further down the chain
      rw [importOne_of_loads hc hlc]
      show List.foldlM _ _ cs = _ ↔ _
      rw [foldlM_importOne_eq_error_iff (List.nodup_cons.1 hnd).2 (fresh_step hnd hf)]
      have hnf : ¬ h.FailsWith c e := fun hfc => not_loads_of_failsWith hfc hlc
      simp only [hnf, hlc, false_or, true_and]
    · -- the first module fails, and its failure is the run's
      rw [importOne_of_failsWith hc hfc]
      show Except.error e' = Except.error e ↔ _
      have hnl : ¬ h.Loads c := not_loads_of_failsWith hfc
      simp only [Except.error.injEq, hnl, false_and, or_false]
      exact ⟨fun he => he ▸ hfc, hfc.unique⟩

end Run

/-! ## Importing a module -/

theorem fresh_importChain (m : String) : h.Fresh h.loaded (importChain m) := fun _ _ => Iff.rfl

/-- Importing a module succeeds exactly when its name is not relative and every module of its
chain loads; the modules not imported before are then added, outermost first. -/
theorem importModule_eq_ok_iff {m : String} {h' : Host} :
    h.importModule m = .ok h' ↔
      m.startsWith "." = false ∧ (∀ p ∈ importChain m, h.Loads p) ∧
        h' = { h with loaded := h.loaded ++ (importChain m).filter (fun p => p ∉ h.loaded) } := by
  unfold importModule
  cases hdot : m.startsWith "." with
  | true => simp
  | false =>
    simp only [Bool.false_eq_true, if_false, bind_eq_ok, pure, Except.pure, Except.ok.injEq,
      true_and]
    constructor
    · rintro ⟨loaded, hrun, rfl⟩
      have hl := loads_of_foldlM_importOne (nodup_importChain m) (fresh_importChain m) hrun
      rw [foldlM_importOne_of_loads (nodup_importChain m) (fresh_importChain m) hl,
        Except.ok.injEq] at hrun
      exact ⟨hl, by rw [hrun]⟩
    · rintro ⟨hl, rfl⟩
      exact ⟨_, foldlM_importOne_of_loads (nodup_importChain m) (fresh_importChain m) hl, rfl⟩

/-- Importing a module fails for a relative name, and otherwise exactly with the failure of
the first module of its chain that does not load. -/
theorem importModule_eq_error_iff {m : String} {e : Failure} :
    h.importModule m = .error e ↔
      (m.startsWith "." = true ∧ e = .relativeImport m) ∨
      (m.startsWith "." = false ∧
        ∃ l₁ c l₂, importChain m = l₁ ++ c :: l₂ ∧ (∀ p ∈ l₁, h.Loads p) ∧ h.FailsWith c e) := by
  unfold importModule
  cases hdot : m.startsWith "." with
  | true => simp [eq_comm]
  | false =>
    simp only [Bool.false_eq_true, if_false, false_and, false_or, true_and, bind_eq_error]
    rw [← foldlM_importOne_eq_error_iff (nodup_importChain m) (fresh_importChain m)]
    constructor
    · rintro (he | ⟨_, _, he⟩)
      · exact he
      · cases he
    · exact .inl

end Host

end CrudScaffold
