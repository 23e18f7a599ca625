import CrudScaffold.Proofs.Host.Importing
import CrudScaffold.Proofs.Text.Cutting
import CrudScaffold.Proofs.Config.Validity

/-!
# Whether a dotted name is a class

Asking whether `m.a` names a class first checks the name: one with an empty segment (the empty
name among them) or without a dot is refused, whatever the modules are
(`classExists_of_not_dotted`, `classExists_of_no_dot`). Otherwise `m` is the part before the
last dot and `a` the last segment, and `m` is imported. When the import succeeds, the answer is
whether the attribute `a` of `m` is a class (`classExists_of_import_ok`). When it fails
because a module is missing and the missing module is `m` or a package above it, the answer is
no (`classExists_of_missing`); any other failure passes through unchanged
(`classExists_of_import_error`).

The missing module is told by the name the failure carries, so a module that needs a module
named like itself or like a package above it counts as missing, and a package above `m` that
fails for another reason makes the question fail even when `m` itself does not exist
(`classExists_dependency_named_as_module`).
-/

namespace CrudScaffold

open CrudScaffold.Namespace CrudScaffold.Text

/-! ## Segments of a dotted name -/

/-- The segments of a dotted name, cut at every dot. -/
theorem segments_any_isEmpty_eq_false {q : String} :
    (splitWhen (· == '.') q.toList).any (·.isEmpty) = false ↔ q ≠ "" ∧ Config.DottedPath q := by
  rw [← Config.isDottedPath_iff]
  by_cases hq : q = ""
  · subst hq
    simp [splitWhen]
  · have hq' : q.isEmpty = false := by simpa [String.isEmpty_iff] using hq
    simp [Config.isDottedPath, hq, hq']

/-- In a dotted name of non-empty segments, the part before the last dot has non-empty
segments too. -/
theorem pieces_module_ne_nil {m a : String} (h : Config.DottedPath (m ++ "." ++ a)) :
    ∀ w ∈ splitWhen (· == '.') m.toList, w ≠ [] := by
  have hseg := (segments_any_isEmpty_eq_false (q := m ++ "." ++ a)).2
    ⟨fun he => by simpa using congrArg String.length he, h⟩
  have hcut : splitWhen (· == '.') (m ++ "." ++ a).toList =
      splitWhen (· == '.') m.toList ++ splitWhen (· == '.') a.toList := by
    simpa using splitWhen_append_cons (p := (· == '.')) (by decide) a.toList m.toList
  intro w hw hnil
  have : (splitWhen (· == '.') (m ++ "." ++ a).toList).any (·.isEmpty) = true :=
    List.any_eq_true.2 ⟨w, by rw [hcut]; exact List.mem_append_left _ hw, by simp [hnil]⟩
  rw [hseg] at this
  cases this

theorem module_ne_empty {m a : String} (h : Config.DottedPath (m ++ "." ++ a)) : m ≠ "" := by
  intro hm
  subst hm
  exact pieces_module_ne_nil h [] (by simp [splitWhen]) rfl

/-- The module part of a dotted name of non-empty segments is not relative, and the modules it
is imported with are all named. -/
theorem module_not_relative {m a : String} (h : Config.DottedPath (m ++ "." ++ a)) :
    m.startsWith "." = false ∧ ∀ n ∈ Host.importChain m, n ≠ "" := by
  have hpieces := pieces_module_ne_nil h
  -- a module part that starts with a dot has an empty first segment
  have hdot : ∀ rest : List Char, m.toList ≠ '.' :: rest := by
    intro rest hrest
    rw [hrest] at hpieces
    exact hpieces [] (by simp [splitWhen]) rfl
  refine ⟨?_, fun n hn hne => ?_⟩
  · cases hs : m.startsWith "." with
    | false => rfl
    | true =>
      obtain ⟨rest, hrest⟩ := String.startsWith_string_iff.1 hs
      exact absurd (by simpa using hrest.symm) (hdot rest)
  · subst hne
    rcases Host.mem_importChain.1 hn with hm | ⟨rest, hm⟩
    · exact module_ne_empty h hm
    · exact hdot rest.toList (by simp [hm])

/-! ## The answers -/

namespace Host

variable {h : Host}

/-- A name with an empty segment is refused whatever the modules. -/
theorem classExists_of_not_dotted {q : String} (hq : ¬ (q ≠ "" ∧ Config.DottedPath q)) :
    h.classExists q = .ok false := by
  have hany : (splitWhen (· == '.') q.toList).any (·.isEmpty) = true := by
    cases hs : (splitWhen (· == '.') q.toList).any (·.isEmpty) with
    | true => rfl
    | false => exact absurd (segments_any_isEmpty_eq_false.1 hs) hq
  simp [classExists, hany]

/-- A name without a dot names no module, and is refused whatever the modules. -/
theorem classExists_of_no_dot {q : String} (hq : '.' ∉ q.toList) : h.classExists q = .ok false := by
  unfold classExists
  split
  · rfl
  · rw [splitLast_of_not_mem hq]
    rfl

/-- A name `m.a` with non-empty segments passes the check on segments, is cut before its last
dot, and has a module part. -/
theorem dotted_checks {m a : String} (hq : Config.DottedPath (m ++ "." ++ a))
    (ha : '.' ∉ a.toList) :
    (splitWhen (· == '.') (m ++ "." ++ a).toList).any (·.isEmpty) = false ∧
      splitLast '.' (m ++ "." ++ a) = (m, a) ∧ m.isEmpty = false := by
  refine ⟨segments_any_isEmpty_eq_false.2 ⟨fun he => by simpa using congrArg String.length he, hq⟩,
    splitLast_join (by simp) ha, by simpa [String.isEmpty_iff] using module_ne_empty hq⟩

theorem classExists_of_import_ok {m a : String} (hq : Config.DottedPath (m ++ "." ++ a))
    (ha : '.' ∉ a.toList) {h' : Host} (hi : h.importModule m = .ok h') :
    h.classExists (m ++ "." ++ a) = .ok ((h'.moduleObjectAttr? m a).any Model.isClass) := by
  obtain ⟨hseg, hcut, hm⟩ := dotted_checks hq ha
  simp only [classExists, hseg, Bool.false_eq_true, if_false, hcut, hm, hi]
  cases h'.moduleObjectAttr? m a <;> rfl

/-- The import test of the question: a missing module named as `m` or a package above it. -/
theorem missing_test_iff {m a n : String} (hq : Config.DottedPath (m ++ "." ++ a)) :
    (!n.isEmpty && (m == n || (n ++ ".").isPrefixOf m)) = true ↔ n ∈ importChain m := by
  rw [Bool.and_eq_true, ← rooted_iff_test, ← mem_importChain]
  constructor
  · exact fun hn => hn.2
  · intro hn
    have hne := (module_not_relative hq).2 n hn
    exact ⟨by simpa [String.isEmpty_iff] using hne, hn⟩

/-- A module missing when `m` is imported, which is `m` or a package above it, makes the
answer no. -/
theorem classExists_of_missing {m a : String} (hq : Config.DottedPath (m ++ "." ++ a))
    (ha : '.' ∉ a.toList) {n : String} (hn : n ∈ importChain m)
    (hi : h.importModule m = .error (.moduleNotFound (some n))) :
    h.classExists (m ++ "." ++ a) = .ok false := by
  obtain ⟨hseg, hcut, hm⟩ := dotted_checks hq ha
  simp only [classExists, hseg, Bool.false_eq_true, if_false, hcut, hm, hi,
    (missing_test_iff hq).2 hn, if_true]

/-- Every other failure to import `m` passes through unchanged. -/
theorem classExists_of_import_error {m a : String} (hq : Config.DottedPath (m ++ "." ++ a))
    (ha : '.' ∉ a.toList) {e : Failure} (hi : h.importModule m = .error e)
    (he : ¬ ∃ n ∈ importChain m, e = .moduleNotFound (some n)) :
    h.classExists (m ++ "." ++ a) = .error e := by
  obtain ⟨hseg, hcut, hm⟩ := dotted_checks hq ha
  simp only [classExists, hseg, Bool.false_eq_true, if_false, hcut, hm, hi]
  -- only a missing module with a name is tested against the chain
  cases e with
  | moduleNotFound missing =>
    cases missing with
    | none => rfl
    | some n =>
      have hn : n ∉ importChain m := fun hn => he ⟨n, hn, rfl⟩
      have hfalse := mt (missing_test_iff (n := n) hq).1 hn
      simp only [Bool.not_eq_true] at hfalse
      simp only [hfalse, Bool.false_eq_true, if_false]
  | _ => rfl

/-- For a name `m.a` with non-empty segments, the answer is yes exactly when `m` imports and
its attribute `a` is a class. -/
theorem classExists_dotted_eq_true_iff {m a : String} (hq : Config.DottedPath (m ++ "." ++ a))
    (ha : '.' ∉ a.toList) :
    h.classExists (m ++ "." ++ a) = .ok true ↔
      ∃ h', h.importModule m = .ok h' ∧ ∃ o, h'.moduleObjectAttr? m a = some o ∧
        o.isClass = true := by
  constructor
  · intro htrue
    cases hi : h.importModule m with
    | ok h' =>
      rw [classExists_of_import_ok hq ha hi, Except.ok.injEq] at htrue
      cases ho : h'.moduleObjectAttr? m a with
      | none => rw [ho] at htrue; cases htrue
      | some o => rw [ho] at htrue; exact ⟨h', rfl, o, ho, htrue⟩
    | error e =>
      -- a failed import answers no or fails, never yes
      by_cases hn : ∃ n ∈ importChain m, e = .moduleNotFound (some n)
      · obtain ⟨n, hn, rfl⟩ := hn
        rw [classExists_of_missing hq ha hn hi] at htrue
        cases htrue
      · rw [classExists_of_import_error hq ha hi hn] at htrue
        cases htrue
  · rintro ⟨h', hi, o, ho, hc⟩
    rw [classExists_of_import_ok hq ha hi, ho]
    exact congrArg Except.ok hc

/-- A name with a dot is cut before its last dot. -/
theorem exists_last_dot {q : String} (hq : '.' ∈ q.toList) :
    ∃ m a, q = m ++ "." ++ a ∧ '.' ∉ a.toList := by
  obtain ⟨xs, ys, hs, hy⟩ := exists_cut_last hq
  exact ⟨String.ofList xs, String.ofList ys, by rw [String.ext_iff]; simp [hs], by simpa using hy⟩

/-- The answer is yes exactly when the name has non-empty segments and a dot, the part before
its last dot imports, and the attribute named by the last segment is a class. -/
theorem classExists_eq_true_iff {q : String} :
    h.classExists q = .ok true ↔
      q ≠ "" ∧ Config.DottedPath q ∧ ∃ m a, q = m ++ "." ++ a ∧ '.' ∉ a.toList ∧
        ∃ h', h.importModule m = .ok h' ∧ ∃ o, h'.moduleObjectAttr? m a = some o ∧
          o.isClass = true := by
  by_cases hd : q ≠ "" ∧ Config.DottedPath q
  · by_cases hdot : '.' ∈ q.toList
    · obtain ⟨m, a, rfl, ha⟩ := exists_last_dot hdot
      rw [classExists_dotted_eq_true_iff hd.2 ha]
      constructor
      · exact fun hc => ⟨hd.1, hd.2, m, a, rfl, ha, hc⟩
      · rintro ⟨-, -, m', a', heq, ha', hc⟩
        -- the cut before the last dot is the only one
        obtain ⟨rfl, rfl⟩ := join_inj (by simp) heq ha ha'
        exact hc
    · rw [classExists_of_no_dot hdot]
      constructor
      · intro hc
        cases hc
      · rintro ⟨-, -, m, a, rfl, -⟩
        exact absurd (by simp) hdot
  · rw [classExists_of_not_dotted hd]
    constructor
    · intro hc
      cases hc
    · rintro ⟨hq, hdp, -⟩
      exact absurd ⟨hq, hdp⟩ hd

end Host

/-- Whether a dotted name `m.a` is a class. A name with an empty segment or no dot is refused.
When `m` and the packages above it import, the answer is whether `a` of `m` is a class;
otherwise the first that does not decides: no when a module named as `m` or above it is
missing, and its own failure for any other. -/
theorem classExists_answers :
    (∀ n m : String, n ∈ Host.importChain m ↔ Rooted n m) ∧
    (∀ (h : Host) (q : String), ¬ (q ≠ "" ∧ Config.DottedPath q) ∨ '.' ∉ q.toList →
      h.classExists q = .ok false) ∧
    (∀ (h : Host) (q : String), h.classExists q = .ok true ↔
      q ≠ "" ∧ Config.DottedPath q ∧ ∃ m a, q = m ++ "." ++ a ∧ '.' ∉ a.toList ∧
        ∃ h', h.importModule m = .ok h' ∧ ∃ o, h'.moduleObjectAttr? m a = some o ∧
          o.isClass = true) ∧
    (∀ (h : Host) (m a : String), Config.DottedPath (m ++ "." ++ a) → '.' ∉ a.toList →
      ((∀ p ∈ Host.importChain m, h.Loads p) → ∃ h', h.importModule m = .ok h' ∧
        h.classExists (m ++ "." ++ a) = .ok ((h'.moduleObjectAttr? m a).any Model.isClass)) ∧
      (∀ e, h.importModule m = .error e ↔
        ∃ l₁ c l₂, Host.importChain m = l₁ ++ c :: l₂ ∧ (∀ p ∈ l₁, h.Loads p) ∧
          h.FailsWith c e) ∧
      (∀ e, h.importModule m = .error e →
        ((∃ n ∈ Host.importChain m, e = .moduleNotFound (some n)) →
          h.classExists (m ++ "." ++ a) = .ok false) ∧
        (¬ (∃ n ∈ Host.importChain m, e = .moduleNotFound (some n)) →
          h.classExists (m ++ "." ++ a) = .error e))) := by
  refine ⟨fun _ _ => Host.mem_importChain, ?_, fun _ _ => Host.classExists_eq_true_iff,
    fun h m a hq ha => ⟨?_, fun e => ?_, ?_⟩⟩
  · rintro h q (hq | hq)
    · exact Host.classExists_of_not_dotted hq
    · exact Host.classExists_of_no_dot hq
  · intro hl
    have hi := Host.importModule_eq_ok_iff.2 ⟨(module_not_relative hq).1, hl, rfl⟩
    exact ⟨_, hi, Host.classExists_of_import_ok hq ha hi⟩
  · rw [Host.importModule_eq_error_iff]
    simp [(module_not_relative hq).1]
  · intro e hi
    refine ⟨fun ⟨n, hn, he⟩ => ?_, Host.classExists_of_import_error hq ha hi⟩
    subst he
    exact Host.classExists_of_missing hq ha hn hi

/-- A module that needs a module of its own name counts as missing, so the answer is no where
the failure would otherwise pass through; and a package that fails above a module that does
not exist makes the question fail where a missing module would give no. -/
theorem classExists_dependency_named_as_module :
    ({ modules := [("fx.models", .broken (some "fx.models"))] } : Host).classExists
        "fx.models.X" = .ok false ∧
    ({ modules := [("fx", .failing "bad thing"), ("fx.models", .objects [])] } : Host).classExists
        "fx.other.X" = .error (.importFailed "bad thing") := by
  constructor
  · -- the package `fx` loads, and `fx.models` needs a module named as itself
    have hi : ({ modules := [("fx.models", .broken (some "fx.models"))] } : Host).importModule
        "fx.models" = .error (.moduleNotFound (some "fx.models")) :=
      Host.importModule_eq_error_iff.2 (.inr ⟨by simp, ["fx"], "fx.models", [], by decide,
        by simp [Host.Loads, Host.body?, Host.isPackage, String.isPrefixOf,
          String.startsWith_string_iff],
        .broken (by simp) rfl⟩)
    exact Host.classExists_of_missing (m := "fx.models") (a := "X")
      (Config.isDottedPath_iff.1 (by decide)) (by decide) (Host.mem_importChain.2 (rooted_self _))
      hi
  · -- the package `fx` raises before `fx.other` is looked for
    have hi : ({ modules := [("fx", .failing "bad thing"), ("fx.models", .objects [])] } :
        Host).importModule "fx.other" = .error (.importFailed "bad thing") :=
      Host.importModule_eq_error_iff.2 (.inr ⟨by simp, [], "fx", ["fx.other"], by decide, by simp,
        .failing (by simp) rfl⟩)
    exact Host.classExists_of_import_error (m := "fx.other") (a := "X")
      (Config.isDottedPath_iff.1 (by decide)) (by decide) hi (by simp)

end CrudScaffold
