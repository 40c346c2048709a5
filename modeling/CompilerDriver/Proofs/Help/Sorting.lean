/-!
# Sorting by a key

A list sorted by a key is made of groups of equal keys. Sorting keeps every group as it is
(`filter_mergeSort`), and a sorted list is known from its groups (`eq_of_groups_eq`). So a list can be
filtered before it is sorted or after that (`mergeSort_filter`), and two lists can be sorted one by one and
then merged (`mergeSort_append`).
-/

namespace CompilerDriver.Help

universe u

variable {α : Type u} (key : α → String)

theorem key_trans (a b c : α) (hab : decide (key a ≤ key b) = true) (hbc : decide (key b ≤ key c) = true) :
    decide (key a ≤ key c) = true := by
  simp only [decide_eq_true_eq] at *
  exact String.le_trans hab hbc

theorem key_total (a b : α) : (decide (key a ≤ key b) || decide (key b ≤ key a)) = true := by
  simp only [Bool.or_eq_true, decide_eq_true_eq]
  exact String.le_total _ _

theorem pairwise_mergeSort_key (l : List α) :
    (l.mergeSort (fun a b => key a ≤ key b)).Pairwise (fun a b => key a ≤ key b) := by
  have h := List.pairwise_mergeSort (key_trans key) (key_total key) l
  simpa only [decide_eq_true_eq] using h

/-- Sorting is stable: the elements with a given key stay in the order they had. -/
theorem filter_mergeSort (l : List α) (k : String) :
    (l.mergeSort (fun a b => key a ≤ key b)).filter (fun a => key a = k) =
      l.filter (fun a => key a = k) := by
  have hGroup : (l.filter (fun a => key a = k)).Pairwise (fun a b => decide (key a ≤ key b) = true) := by
    rw [List.pairwise_iff_getElem]
    intro i j hi hj _
    have hKey (n : Nat) (hn : n < (l.filter (fun a => key a = k)).length) :
        key (l.filter (fun a => key a = k))[n] = k :=
      of_decide_eq_true (List.mem_filter.1 (List.getElem_mem hn)).2
    simp [hKey i hi, hKey j hj]
  -- The group is a sublist of the sorted list, and sorting makes no more of its elements.
  have hKept := (List.sublist_mergeSort (key_trans key) (key_total key) hGroup List.filter_sublist).filter
    (fun a => decide (key a = k))
  simp only [List.filter_filter, Bool.and_self] at hKept
  exact (hKept.eq_of_length ((List.mergeSort_perm l _).filter _).length_eq.symm).symm

variable {key}

theorem mem_of_groups_eq {l m : List α}
    (h : ∀ k, l.filter (fun a => key a = k) = m.filter (fun a => key a = k)) {a : α} (ha : a ∈ l) :
    a ∈ m := by
  have hGroup : a ∈ l.filter (fun b => key b = key a) := List.mem_filter.2 ⟨ha, by simp⟩
  rw [h] at hGroup
  exact (List.mem_filter.1 hGroup).1

theorem key_head_le {a b : α} {l : List α} (hl : (b :: l).Pairwise (fun a b => key a ≤ key b))
    (ha : a ∈ b :: l) : key b ≤ key a := by
  rcases List.mem_cons.1 ha with rfl | ha
  · exact String.le_refl _
  · exact (List.pairwise_cons.1 hl).1 a ha

/-- Lists with one head and the same groups have tails with the same groups. -/
theorem groups_tail {a : α} {l m : List α}
    (h : ∀ k, (a :: l).filter (fun a => key a = k) = (a :: m).filter (fun a => key a = k)) (k : String) :
    l.filter (fun a => key a = k) = m.filter (fun a => key a = k) := by
  have hk := h k
  by_cases ha : key a = k
  · rw [List.filter_cons_of_pos (by simp [ha]), List.filter_cons_of_pos (by simp [ha])] at hk
    exact (List.cons.inj hk).2
  · rwa [List.filter_cons_of_neg (by simp [ha]), List.filter_cons_of_neg (by simp [ha])] at hk

/-- Two sorted lists with the same groups are the same. -/
theorem eq_of_groups_eq {l m : List α} (hl : l.Pairwise (fun a b => key a ≤ key b))
    (hm : m.Pairwise (fun a b => key a ≤ key b))
    (h : ∀ k, l.filter (fun a => key a = k) = m.filter (fun a => key a = k)) : l = m := by
  induction l generalizing m with
  | nil =>
    cases m with
    | nil => rfl
    | cons b m => exact absurd (mem_of_groups_eq (fun k => (h k).symm) List.mem_cons_self) (by simp)
  | cons a l ih =>
    cases m with
    | nil => exact absurd (mem_of_groups_eq h List.mem_cons_self) (by simp)
    | cons b m =>
      -- Each head is in the other list, so neither key is greater.
      have hab : key a ≤ key b :=
        key_head_le hl (mem_of_groups_eq (fun k => (h k).symm) List.mem_cons_self)
      have hba : key b ≤ key a := key_head_le hm (mem_of_groups_eq h List.mem_cons_self)
      have hKey : key a = key b := String.le_antisymm hab hba
      have hHeads := h (key a)
      rw [List.filter_cons_of_pos (by simp), List.filter_cons_of_pos (by simp [hKey])] at hHeads
      obtain ⟨rfl, -⟩ := List.cons.inj hHeads
      rw [ih (List.pairwise_cons.1 hl).2 (List.pairwise_cons.1 hm).2 (groups_tail h)]

/-- Elements may as well be left out before sorting as after it. -/
theorem mergeSort_filter (p : α → Bool) (l : List α) :
    (l.filter p).mergeSort (fun a b => key a ≤ key b) =
      (l.mergeSort (fun a b => key a ≤ key b)).filter p := by
  apply eq_of_groups_eq (pairwise_mergeSort_key key _) ((pairwise_mergeSort_key key l).filter p)
  intro k
  rw [filter_mergeSort, List.filter_filter, List.filter_filter]
  simp only [Bool.and_comm]
  rw [← List.filter_filter, ← List.filter_filter, filter_mergeSort]

/-! ## Merging -/

theorem pairwise_merge_key {l m : List α} (hl : l.Pairwise (fun a b => key a ≤ key b))
    (hm : m.Pairwise (fun a b => key a ≤ key b)) :
    (l.merge m (fun a b => key a ≤ key b)).Pairwise (fun a b => key a ≤ key b) := by
  have h := List.pairwise_merge (key_trans key) (key_total key) l m
  simp only [decide_eq_true_eq] at h
  exact h hl hm

/-- Merging takes of every group what the first list has before what the second has. -/
theorem filter_merge {l m : List α} (hl : l.Pairwise (fun a b => key a ≤ key b)) (k : String) :
    (l.merge m (fun a b => key a ≤ key b)).filter (fun a => key a = k) =
      l.filter (fun a => key a = k) ++ m.filter (fun a => key a = k) := by
  induction l generalizing m with
  | nil => simp
  | cons a l ihl =>
    induction m with
    | nil => simp
    | cons b m ihm =>
      rw [List.cons_merge_cons]
      split
      · rw [List.filter_cons, ihl (List.pairwise_cons.1 hl).2, List.filter_cons (x := a)]
        split <;> rfl
      · next hba =>
        rw [List.filter_cons, ihm, List.filter_cons (x := b)]
        split
        · next hk =>
          -- The first list has nothing of a group whose key is below that of its head.
          have hNone : (a :: l).filter (fun c => key c = k) = [] := by
            rw [List.filter_eq_nil_iff]
            intro c hc hck
            have hac := key_head_le hl hc
            rw [of_decide_eq_true hck, ← of_decide_eq_true hk] at hac
            exact hba (decide_eq_true hac)
          rw [hNone]
          rfl
        · rfl

theorem mergeSort_append (l m : List α) :
    (l ++ m).mergeSort (fun a b => key a ≤ key b) =
      (l.mergeSort (fun a b => key a ≤ key b)).merge (m.mergeSort (fun a b => key a ≤ key b))
        (fun a b => key a ≤ key b) := by
  apply eq_of_groups_eq (pairwise_mergeSort_key key _)
    (pairwise_merge_key (pairwise_mergeSort_key key l) (pairwise_mergeSort_key key m))
  intro k
  rw [filter_mergeSort, List.filter_append, filter_merge (pairwise_mergeSort_key key l), filter_mergeSort,
    filter_mergeSort]

/-- A single element goes right behind the last one whose key is not greater. -/
theorem exists_merge_singleton {l : List α} (hl : l.Pairwise (fun a b => key a ≤ key b)) (a : α) :
    ∃ before after, l = before ++ after ∧ (∀ b ∈ before, key b ≤ key a) ∧ (∀ b ∈ after, key a < key b) ∧
      l.merge [a] (fun a b => key a ≤ key b) = before ++ a :: after := by
  induction l with
  | nil => exact ⟨[], [], rfl, by simp, by simp, by simp⟩
  | cons b l ih =>
    rw [List.cons_merge_cons]
    split
    · next hba =>
      obtain ⟨before, after, rfl, hBefore, hAfter, hMerge⟩ := ih (List.pairwise_cons.1 hl).2
      refine ⟨b :: before, after, rfl, ?_, hAfter, by rw [hMerge]; rfl⟩
      intro c hc
      rcases List.mem_cons.1 hc with rfl | hc
      · exact of_decide_eq_true hba
      · exact hBefore c hc
    · next hba =>
      refine ⟨[], b :: l, rfl, by simp, ?_, by simp⟩
      intro c hc
      apply String.not_le.1
      intro hca
      exact hba (decide_eq_true (String.le_trans (key_head_le hl hc) hca))

end CompilerDriver.Help
