import CrudScaffold.Text.Case

/-!
# The case maps on ASCII

Below code point 128 the full Unicode case tables agree with the ASCII case functions of the
standard library: the first run of `lowerRuns` and the first range of `upperRanges` are the
ASCII capitals, every other entry of the tables starts above 127, and no ASCII character has
a lower-case expansion. So `lowerChar c = [c.toLower]` and `isUppercase c = c.isUpper` there.
-/

namespace CrudScaffold.Text

theorem isLower_iff (c : Char) : c.isLower ↔ 97 ≤ c.toNat ∧ c.toNat ≤ 122 := by
  show (decide (c.val ≥ 'a'.val) && decide (c.val ≤ 'z'.val)) = true ↔ _
  simp [UInt32.le_iff_toNat_le, ← Char.toNat_val]

theorem isUpper_iff (c : Char) : c.isUpper ↔ 65 ≤ c.toNat ∧ c.toNat ≤ 90 := by
  show decide (c.val ≥ 'A'.val ∧ c.val ≤ 'Z'.val) = true ↔ _
  simp [UInt32.le_iff_toNat_le, ← Char.toNat_val]

theorem isAlpha_eq (c : Char) : c.isAlpha = (c.isUpper || c.isLower) := rfl

theorem isUpper_eq_false {c : Char} (h : ¬ (65 ≤ c.toNat ∧ c.toNat ≤ 90)) : c.isUpper = false :=
  Bool.eq_false_iff.2 fun hu => h ((isUpper_iff c).1 hu)

theorem isUpper_of_isLower {c : Char} (h : c.isLower) : c.isUpper = false := by
  have := (isLower_iff c).1 h
  exact isUpper_eq_false (by omega)

theorem toNat_toLower (c : Char) :
    c.toLower.toNat = if c.isUpper then c.toNat + 32 else c.toNat := by
  unfold Char.toLower
  split
  · rename_i h
    have hu : c.isUpper := decide_eq_true h
    simp only [hu, if_true]
    show (c.val + ('a'.val - 'A'.val)).toNat = c.val.toNat + 32
    have h32 : ('a'.val - 'A'.val).toNat = 32 := rfl
    have hle : c.val.toNat ≤ 90 := ((isUpper_iff c).1 hu).2
    -- a capital is at most 90, so adding 32 does not wrap around
    rw [UInt32.toNat_add, h32]
    omega
  · rename_i h
    have hu : c.isUpper = false := decide_eq_false h
    simp [hu]

theorem toLower_of_not_isUpper {c : Char} (h : c.isUpper = false) : c.toLower = c := by
  apply Char.toNat_inj.1
  rw [toNat_toLower, h]
  rfl

theorem isLower_toLower {c : Char} (h : c.isUpper) : c.toLower.isLower := by
  rw [isLower_iff, toNat_toLower, if_pos h]
  have := (isUpper_iff c).1 h
  omega

theorem toNat_toUpper (c : Char) :
    c.toUpper.toNat = if c.isLower then c.toNat - 32 else c.toNat := by
  unfold Char.toUpper
  split
  · rename_i h
    have hl : 97 ≤ c.toNat ∧ c.toNat ≤ 122 := by
      simpa [UInt32.le_iff_toNat_le, ← Char.toNat_val] using h
    simp only [(isLower_iff c).2 hl, if_true]
    show (c.val + ('A'.val - 'a'.val)).toNat = c.val.toNat - 32
    have h32 : ('A'.val - 'a'.val).toNat = 4294967264 := rfl
    -- subtracting 32 is adding its complement, which wraps around past a lower-case letter
    rw [UInt32.toNat_add, h32]
    have : c.val.toNat = c.toNat := rfl
    omega
  · rename_i h
    have hl : c.isLower = false := by
      rw [Bool.eq_false_iff, ne_eq, isLower_iff]
      simpa [UInt32.le_iff_toNat_le, ← Char.toNat_val] using h
    simp [hl]

theorem toUpper_of_not_isLower {c : Char} (h : c.isLower = false) : c.toUpper = c := by
  apply Char.toNat_inj.1
  rw [toNat_toUpper, h]
  rfl

theorem isUpper_toUpper {c : Char} (h : c.isLower) : c.toUpper.isUpper := by
  rw [isUpper_iff, toNat_toUpper, if_pos h]
  have := (isLower_iff c).1 h
  omega

/-- Upper-casing a lower-case letter and lower-casing it again gives it back. -/
theorem toLower_toUpper {c : Char} (h : c.isLower) : c.toUpper.toLower = c := by
  apply Char.toNat_inj.1
  rw [toNat_toLower, if_pos (isUpper_toUpper h), toNat_toUpper, if_pos h]
  have := (isLower_iff c).1 h
  omega

theorem lowerRuns_eq : lowerRuns = ⟨0x41, 0x5A, 1, 32⟩ :: lowerRuns.tail := rfl

theorem lowerRuns_tail_above : ∀ r ∈ lowerRuns.tail, 128 ≤ r.first := by decide +kernel

theorem lowerExpansions_above : ∀ e ∈ lowerExpansions, 128 ≤ e.1 := by decide

theorem upperRanges_eq : upperRanges = ⟨0x41, 0x5A, 1⟩ :: upperRanges.tail := rfl

theorem upperRanges_tail_above : ∀ r ∈ upperRanges.tail, 128 ≤ r.first := by decide +kernel

/-- Below code point 128 the full lower-case map is the ASCII one. -/
theorem lowerChar_ascii {c : Char} (h : c.toNat < 128) : lowerChar c = [c.toLower] := by
  have hexp : lowerExpansions.lookup c.toNat = none := by
    rw [List.lookup_eq_none_iff]
    intro p hp
    have := lowerExpansions_above p hp
    simp only [bne_iff_ne, ne_eq]
    omega
  have htail : lowerRuns.tail.findSome? (·.image? c.toNat) = none := by
    rw [List.findSome?_eq_none_iff]
    intro r hr
    have := lowerRuns_tail_above r hr
    simp [CaseRun.image?]
    omega
  unfold lowerChar caseForm
  rw [hexp, lowerRuns_eq, List.findSome?_cons]
  -- only the run of the ASCII capitals can hold `c`
  by_cases hu : c.isUpper
  · have hr := (isUpper_iff c).1 hu
    have him : CaseRun.image? ⟨65, 90, 1, 32⟩ c.toNat = some (c.toNat + 32) := by
      simp [CaseRun.image?, hr]
      omega
    simp only [him, List.singleton_inj]
    rw [show c.toNat + 32 = c.toLower.toNat by rw [toNat_toLower, if_pos hu], Char.ofNat_toNat]
  · have hr : ¬ (65 ≤ c.toNat ∧ c.toNat ≤ 90) := fun h => hu ((isUpper_iff c).2 h)
    have him : CaseRun.image? ⟨65, 90, 1, 32⟩ c.toNat = none := by
      simp [CaseRun.image?]
      omega
    simp only [him, htail, List.singleton_inj]
    rw [toLower_of_not_isUpper (isUpper_eq_false hr)]

/-- Below code point 128 the upper-case property is that of the ASCII capitals. -/
theorem isUppercase_ascii {c : Char} (h : c.toNat < 128) : isUppercase c = c.isUpper := by
  unfold isUppercase
  have htail : upperRanges.tail.any (·.contains c.toNat) = false := by
    rw [List.any_eq_false]
    intro r hr
    have := upperRanges_tail_above r hr
    simp [StepRange.contains]
    omega
  rw [upperRanges_eq, List.any_cons, htail, Bool.or_false, Bool.eq_iff_iff, isUpper_iff]
  simp [StepRange.contains, Nat.mod_one]

end CrudScaffold.Text
