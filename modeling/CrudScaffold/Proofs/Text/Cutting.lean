import CrudScaffold.Text.Split

/-!
# Where a text is cut

`splitLast` and `splitFirst` cut a text once, and the cut is fixed by where the character
stands: a text whose characters are `xs`, then `c`, then `ys` is cut by `splitLast` into `xs`
and `ys` when no `c` follows the cut (`splitLast_eq`), and by `splitFirst` when no `c` comes
before it (`splitFirst_eq`). A text without `c` is left whole (`splitLast_of_not_mem`,
`splitFirst_of_not_mem`), and a text that holds `c` can be cut at its first or its last `c`
(`exists_cut_first`, `exists_cut_last`). A text joined from two by a one-character separator
is cut back into them (`splitLast_join`, `splitFirst_join`), and so is joined from one pair
only (`join_inj`). Cutting at every separator a text made of two texts and a
separator between them gives the pieces of both (`splitWhen_append_cons`).
-/

namespace CrudScaffold.Text

variable {c : Char} {s : String} {xs ys : List Char}

theorem splitLast_eq (hs : s.toList = xs ++ c :: ys) (hy : c ∉ ys) :
    splitLast c s = (String.ofList xs, String.ofList ys) := by
  have hmem : s.toList.contains c = true := by simp [hs]
  -- read from the end, the text is `ys` reversed, then `c`, then `xs` reversed
  have hrev : s.toList.reverse = ys.reverse ++ c :: xs.reverse := by simp [hs]
  have hys : ∀ a ∈ ys.reverse, decide (a ≠ c) = true := by
    intro a ha
    have : a ≠ c := fun h => hy (h ▸ List.mem_reverse.1 ha)
    simpa using this
  have htake : s.toList.reverse.takeWhile (· ≠ c) = ys.reverse := by
    rw [hrev, List.takeWhile_append_of_pos hys, List.takeWhile_cons_of_neg (by simp)]
    simp
  have hdrop : s.toList.reverse.dropWhile (· ≠ c) = c :: xs.reverse := by
    rw [hrev, List.dropWhile_append_of_pos hys, List.dropWhile_cons_of_neg (by simp)]
  simp only [splitLast, hmem, if_true, htake, hdrop, List.reverse_cons, List.reverse_reverse,
    List.dropLast_concat]

/-- A text holding `c` can be cut before its last `c`. -/
theorem exists_cut_last : ∀ {l : List Char}, c ∈ l → ∃ xs ys, l = xs ++ c :: ys ∧ c ∉ ys
  | x :: l, h => by
    by_cases hl : c ∈ l
    · obtain ⟨xs, ys, rfl, hy⟩ := exists_cut_last hl
      exact ⟨x :: xs, ys, rfl, hy⟩
    · have hx : c = x := by simpa [hl] using h
      exact ⟨[], l, by simp [hx], hl⟩

theorem splitLast_of_not_mem (h : c ∉ s.toList) : splitLast c s = ("", s) := by
  have : s.toList.contains c = false := by simpa using h
  simp only [splitLast, this, Bool.false_eq_true, if_false]

theorem splitFirst_eq (hs : s.toList = xs ++ c :: ys) (hx : c ∉ xs) :
    splitFirst c s = (String.ofList xs, String.ofList ys) := by
  have hxs : ∀ a ∈ xs, decide (a ≠ c) = true := by
    intro a ha
    have : a ≠ c := fun h => hx (h ▸ ha)
    simpa using this
  have htake : s.toList.takeWhile (· ≠ c) = xs := by
    rw [hs, List.takeWhile_append_of_pos hxs, List.takeWhile_cons_of_neg (by simp)]
    simp
  have hdrop : s.toList.dropWhile (· ≠ c) = c :: ys := by
    rw [hs, List.dropWhile_append_of_pos hxs, List.dropWhile_cons_of_neg (by simp)]
  simp only [splitFirst, htake, hdrop, List.drop_succ_cons, List.drop_zero]

/-- A text holding `c` can be cut before its first `c`. -/
theorem exists_cut_first : ∀ {l : List Char}, c ∈ l → ∃ xs ys, l = xs ++ c :: ys ∧ c ∉ xs
  | x :: l, h => by
    by_cases hx : x = c
    · exact ⟨[], l, by simp [hx], by simp⟩
    · have hl : c ∈ l := by simpa [Ne.symm hx] using h
      obtain ⟨xs, ys, rfl, hxs⟩ := exists_cut_first hl
      exact ⟨x :: xs, ys, rfl, by simp [Ne.symm hx, hxs]⟩

theorem splitFirst_of_not_mem (h : c ∉ s.toList) : splitFirst c s = (s, "") := by
  have hall : ∀ a ∈ s.toList, decide (a ≠ c) = true := by
    intro a ha
    have : a ≠ c := fun heq => h (heq ▸ ha)
    simpa using this
  -- the whole text is read before a `c` could be met
  have htake : s.toList.takeWhile (· ≠ c) = s.toList := by
    simpa using @List.takeWhile_append_of_pos _ _ s.toList [] hall
  have hdrop : s.toList.dropWhile (· ≠ c) = [] := by
    simpa using @List.dropWhile_append_of_pos _ _ s.toList [] hall
  simp only [splitFirst, htake, hdrop, String.ofList_toList, List.drop_nil]

section Joined

variable {sep before after : String}

/-- A text joined from two texts by a one-character separator is cut back into them before
its last separator when the second holds none. -/
theorem splitLast_join (hsep : sep.toList = [c]) (h : c ∉ after.toList) :
    splitLast c (before ++ sep ++ after) = (before, after) := by
  rw [splitLast_eq (show (before ++ sep ++ after).toList = before.toList ++ c :: after.toList by
    simp [hsep]) h]
  simp

/-- Such a text is cut back into its two texts before its first separator when the first
holds none. -/
theorem splitFirst_join (hsep : sep.toList = [c]) (h : c ∉ before.toList) :
    splitFirst c (before ++ sep ++ after) = (before, after) := by
  rw [splitFirst_eq (show (before ++ sep ++ after).toList = before.toList ++ c :: after.toList by
    simp [hsep]) h]
  simp

/-- A text is joined by its last separator from one pair of texts only. -/
theorem join_inj {before' after' : String} (hsep : sep.toList = [c])
    (heq : before ++ sep ++ after = before' ++ sep ++ after') (h : c ∉ after.toList)
    (h' : c ∉ after'.toList) : before = before' ∧ after = after' := by
  have hcut : splitLast c (before ++ sep ++ after) = (before, after) := splitLast_join hsep h
  rw [heq, splitLast_join hsep h'] at hcut
  obtain ⟨hb, ha⟩ := Prod.mk.inj hcut
  exact ⟨hb.symm, ha.symm⟩

end Joined

/-- Cutting at every separator: the pieces of a text, a separator and a text are the pieces
of the first text followed by those of the second. -/
theorem splitWhen_append_cons {p : Char → Bool} {sep : Char} (hsep : p sep = true)
    (ys : List Char) : ∀ xs : List Char, splitWhen p (xs ++ sep :: ys) = splitWhen p xs ++ splitWhen p ys
  | [] => by simp [splitWhen, hsep]
  | x :: xs => by
    have ih := splitWhen_append_cons hsep ys xs
    by_cases hx : p x
    · simp [splitWhen, hx, ih]
    · -- the first character joins the first piece of the rest
      obtain ⟨w, ws, hw⟩ := List.exists_cons_of_ne_nil (splitWhen_ne_nil p xs)
      simp [splitWhen, hx, ih, hw]

end CrudScaffold.Text
