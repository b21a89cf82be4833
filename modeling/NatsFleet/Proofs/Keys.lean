import NatsFleet.Cluster.KeyMap
import Mathlib.Data.List.Basic

/-!
What a map from cluster keys holds after an entry has been put, taken out, or sorted out.
-/
namespace NatsFleet.KeyMap

variable {α : Type} (m : KeyMap α) (k other : ClusterKey)

/-- What is put under a key is found there, and the other keys keep theirs. -/
theorem find?_put (a : α) :
    (m.put k a).find? other = if k = other then some a else m.find? other := by
  induction m with
  | nil => rfl
  | cons entry rest ih =>
    obtain ⟨k', a'⟩ := entry
    by_cases hk : k' = k
    · subst hk
      simp only [put, find?, if_true]
      split_ifs <;> rfl
    · simp only [put, find?, if_neg hk, ih]
      -- The entry in front and the new one have different keys.
      split_ifs with h₁ h₂ <;> first | rfl | exact absurd (h₁.trans h₂.symm) hk

theorem find?_filter (P : ClusterKey → Bool) :
    find? (m.filter fun e => P e.1) k = if P k = true then m.find? k else none := by
  induction m with
  | nil => simp [find?]
  | cons entry rest ih =>
    obtain ⟨k', a'⟩ := entry
    by_cases hP : P k' = true
    · rw [List.filter_cons_of_pos (by exact hP), find?, find?, ih]
      by_cases hk : k' = k
      · subst hk
        simp only [if_true, if_pos hP]
      · simp only [if_neg hk]
    · rw [List.filter_cons_of_neg (by exact hP), find?, ih]
      by_cases hk : k' = k
      · subst hk
        simp only [if_neg hP]
      · simp only [if_neg hk]

/-- Only what is erased is not found any more. -/
theorem find?_erase :
    (m.erase k).find? other = if k = other then none else m.find? other := by
  have h := find?_filter m other fun k' => decide (k' ≠ k)
  by_cases hk : k = other
  · subst hk
    rw [if_pos rfl]
    simpa [erase] using h
  · rw [if_neg hk]
    simpa [erase, Ne.symm hk] using h

theorem mem_of_find? {a : α} (h : m.find? k = some a) : (k, a) ∈ m := by
  induction m with
  | nil => cases h
  | cons entry rest ih =>
    obtain ⟨k', a'⟩ := entry
    rw [find?] at h
    by_cases hk : k' = k
    · rw [if_pos hk, Option.some.injEq] at h
      rw [hk, h]
      exact List.mem_cons_self
    · rw [if_neg hk] at h
      exact List.mem_cons_of_mem _ (ih h)

theorem mem_put {a b : α} (h : (other, b) ∈ m.put k a) : (other, b) = (k, a) ∨ (other, b) ∈ m := by
  induction m with
  | nil => exact .inl (List.mem_singleton.mp h)
  | cons entry rest ih =>
    obtain ⟨k', a'⟩ := entry
    rw [put] at h
    by_cases hk : k' = k
    · rw [if_pos hk, List.mem_cons] at h
      exact h.imp_right (List.mem_cons_of_mem _)
    · rw [if_neg hk, List.mem_cons] at h
      rcases h with h | h
      · exact .inr (h ▸ List.mem_cons_self)
      · exact (ih h).imp_right (List.mem_cons_of_mem _)

/-- A new key comes last, and one that is there stays in its place. -/
theorem keys_put (a : α) : (m.put k a).map (·.1) =
    if k ∈ m.map (·.1) then m.map (·.1) else m.map (·.1) ++ [k] := by
  induction m with
  | nil => rfl
  | cons entry rest ih =>
    obtain ⟨k', a'⟩ := entry
    by_cases hk : k' = k
    · subst hk
      simp only [put, if_true, List.map_cons, List.mem_cons, true_or]
    · simp only [put, if_neg hk, List.map_cons, List.mem_cons, Ne.symm hk, false_or, ih]
      split_ifs <;> rfl

theorem keys_put_nodup (a : α) (h : (m.map (·.1)).Nodup) : ((m.put k a).map (·.1)).Nodup := by
  rw [keys_put]
  split_ifs with hk
  · exact h
  · refine List.nodup_append.mpr ⟨h, List.pairwise_singleton _ k, ?_⟩
    intro k' hk' k'' hmem heq
    rw [heq, List.mem_singleton.mp hmem] at hk'
    exact hk hk'

theorem keys_filter_nodup (P : ClusterKey × α → Bool) (h : (m.map (·.1)).Nodup) :
    ((m.filter P).map (·.1)).Nodup :=
  h.sublist (List.filter_sublist.map _)

/-- The entries of a key, of which there is at most one. -/
theorem filter_key (h : (m.map (·.1)).Nodup) :
    m.filter (fun e => e.1 = k) = ((m.find? k).map (k, ·)).toList := by
  induction m with
  | nil => rfl
  | cons entry rest ih =>
    obtain ⟨k', a'⟩ := entry
    rw [List.map_cons, List.nodup_cons] at h
    by_cases hk : k' = k
    · subst hk
      have hrest : rest.filter (fun e => e.1 = k') = [] := by
        rw [List.filter_eq_nil_iff]
        intro e he heq
        exact h.1 (List.mem_map.mpr ⟨e, he, of_decide_eq_true heq⟩)
      simp [find?, hrest]
    · simp [find?, hk, ih h.2]

/-- With different keys, each entry is the one that is found under its key. -/
theorem find?_of_mem (h : (m.map (·.1)).Nodup) {a : α} (hmem : (k, a) ∈ m) : m.find? k = some a := by
  have hkey : (k, a) ∈ m.filter fun e => e.1 = k := List.mem_filter.mpr ⟨hmem, decide_eq_true rfl⟩
  rw [filter_key m k h] at hkey
  simpa using hkey

end NatsFleet.KeyMap
