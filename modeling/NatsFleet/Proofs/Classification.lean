import NatsFleet.Proofs.Keys
import NatsFleet.Watch.Classifier
import Mathlib.Logic.Function.Basic

/-!
What reports amount to: the changes made of them, one after the other, turn the specs of the objects
that were remembered into those of the objects that are remembered afterwards.
-/
namespace NatsFleet

abbrev SpecMap := ClusterKey → Option ClusterSpec

namespace Watch

/-- What a change makes of the declared specs. An object that is there already is not added. -/
def Change.apply (m : SpecMap) : Change → SpecMap
  | .added c => if (m c.key).isNone then Function.update m c.key (some c.spec) else m
  | .updated _ c => Function.update m c.key (some c.spec)
  | .deleted c => Function.update m c.key none

namespace Classifier

def specs (s : Classifier) : SpecMap := fun k => (s.seen.find? k).map (·.spec)

def Keyed (s : Classifier) : Prop := ∀ e ∈ s.seen, e.2.key = e.1

variable {s : Classifier}

/-- A reported object changes what is remembered as its changes say. -/
theorem apply_specs (c : Cluster) :
    (s.apply c).1.foldl Change.apply s.specs = (s.apply c).2.specs := by
  funext k
  have hput : (s.apply c).2.specs k = if c.key = k then some c.spec else s.specs k := by
    simp only [apply, specs, KeyMap.find?_put]
    split_ifs <;> rfl
  rw [hput]
  -- An object is added, updated or passed over, by what is remembered of it.
  cases hold : s.seen.find? c.key with
  | none =>
    have hnone : s.specs c.key = none := by rw [specs, hold]; rfl
    simp [apply, hold, Change.apply, hnone, Function.update_apply, eq_comm]
  | some old =>
    have hsome : s.specs c.key = some old.spec := by rw [specs, hold]; rfl
    by_cases hspec : old.spec ≠ c.spec
    · simp [apply, hold, hspec, Change.apply, Function.update_apply, eq_comm]
    · -- Nothing declared has changed, so the spec in place is the new one.
      rw [not_not] at hspec
      by_cases hk : c.key = k
      · subst hk
        simp [apply, hold, hspec, hsome]
      · simp [apply, hold, hspec, hk]

theorem foldl_erase {α : Type} (gone : List Cluster) (m : ClusterKey → Option α) (k : ClusterKey) :
    gone.foldl (fun (m : ClusterKey → Option α) c => Function.update m c.key none) m k =
      if ∃ c ∈ gone, c.key = k then none else m k := by
  induction gone generalizing m with
  | nil => simp
  | cons c gone ih =>
    rw [List.foldl_cons, ih]
    by_cases hmore : ∃ c' ∈ gone, c'.key = k
    · simp [hmore]
    · by_cases hk : c.key = k
      · simp [hmore, hk]
      · simp [Ne.symm hk, eq_comm]

/-- Gone is what is remembered and not named by the listing. -/
theorem mem_gone (s : Classifier) (relisted : List ClusterKey) (c : Cluster) :
    c ∈ s.gone relisted ↔ ∃ e ∈ s.seen, e.1 ∉ relisted ∧ e.2 = c := by
  simp only [gone, List.mem_map, List.mem_mergeSort, List.mem_filter, decide_eq_true_eq]
  constructor
  · rintro ⟨e, ⟨hmem, hgone⟩, rfl⟩
    exact ⟨e, hmem, hgone, rfl⟩
  · rintro ⟨e, hmem, hgone, rfl⟩
    exact ⟨e, ⟨hmem, hgone⟩, rfl⟩

theorem gone_eq_nil {relisted : List ClusterKey} (h : ∀ e ∈ s.seen, e.1 ∈ relisted) :
    s.gone relisted = [] := by
  rw [List.eq_nil_iff_forall_not_mem]
  intro c hc
  obtain ⟨e, he, hgone, -⟩ := (s.mem_gone relisted c).mp hc
  exact hgone (h e he)

/-- When what is gone is taken out of a map that has no other keys than what is remembered, the keys
that were listed again stay. -/
theorem erase_gone {α : Type} (hkeyed : s.Keyed) (relisted : List ClusterKey)
    {m : ClusterKey → Option α} (hm : ∀ k, s.seen.find? k = none → m k = none) (k : ClusterKey) :
    (s.gone relisted).foldl (fun (m : ClusterKey → Option α) c => Function.update m c.key none) m k =
      if k ∈ relisted then m k else none := by
  rw [foldl_erase]
  by_cases hlisted : k ∈ relisted
  · -- What is listed again is not gone.
    have hstay : ¬ ∃ c ∈ s.gone relisted, c.key = k := by
      rintro ⟨c, hc, rfl⟩
      obtain ⟨e, hmem, hgone, rfl⟩ := (s.mem_gone relisted c).mp hc
      exact hgone (hkeyed e hmem ▸ hlisted)
    rw [if_neg hstay, if_pos hlisted]
  · rw [if_neg hlisted]
    by_cases hgone : ∃ c ∈ s.gone relisted, c.key = k
    · exact if_pos hgone
    · rw [if_neg hgone]
      apply hm
      cases hfind : s.seen.find? k with
      | none => rfl
      | some c =>
        have hmem := KeyMap.mem_of_find? _ _ hfind
        exact absurd ⟨c, (s.mem_gone relisted c).mpr ⟨_, hmem, hlisted, rfl⟩, hkeyed _ hmem⟩ hgone

/-- A complete listing leaves the specs of what it has named. -/
theorem complete_specs (hkeyed : s.Keyed) (relisted : List ClusterKey) :
    ((s.gone relisted).map Change.deleted).foldl Change.apply s.specs =
      specs { seen := s.seen.filter fun e => e.1 ∈ relisted } := by
  have hnone : ∀ k, s.seen.find? k = none → s.specs k = none := by
    intro k hfind
    rw [specs, hfind]
    rfl
  funext k
  have hfilter := KeyMap.find?_filter s.seen k fun k' => decide (k' ∈ relisted)
  simp only [decide_eq_true_eq] at hfilter
  rw [List.foldl_map]
  refine (erase_gone hkeyed relisted hnone k).trans ?_
  simp only [specs, hfilter]
  split_ifs <;> rfl

/-- The changes that a report amounts to turn the specs of the objects remembered before it into
those of the objects remembered after it. -/
theorem classify_specs (hkeyed : s.Keyed) (r : Report) :
    (s.classify r).1.foldl Change.apply s.specs = (s.classify r).2.specs := by
  -- What a listing has seen so far bears on the changes only when it is complete.
  cases r with
  | listing => rfl
  | listed c => exact apply_specs (s := { s with relisted := s.relisted.map (c.key :: ·) }) c
  | complete =>
    unfold classify
    dsimp only
    split
    · rfl
    · exact complete_specs hkeyed _
  | applied c => exact apply_specs c
  | deleted c =>
    funext k
    simp only [classify, List.foldl_cons, List.foldl_nil, Change.apply, specs, KeyMap.find?_erase,
      Function.update_apply, eq_comm]
    split_ifs <;> rfl

theorem apply_keyed (hkeyed : s.Keyed) (c : Cluster) : (s.apply c).2.Keyed := by
  rintro ⟨k, d⟩ hmem
  rcases KeyMap.mem_put _ _ _ hmem with heq | hmem'
  · cases heq
    rfl
  · exact hkeyed _ hmem'

/-- Every object stays remembered under its own key. -/
theorem classify_keyed (hkeyed : s.Keyed) (r : Report) : (s.classify r).2.Keyed := by
  cases r with
  | listing => exact hkeyed
  | listed c => exact apply_keyed (s := { s with relisted := s.relisted.map (c.key :: ·) }) hkeyed c
  | complete =>
    unfold classify
    dsimp only
    split
    · exact hkeyed
    · exact fun e hmem => hkeyed e (List.mem_of_mem_filter hmem)
  | applied c => exact apply_keyed hkeyed c
  | deleted c => exact fun e hmem => hkeyed e (List.mem_of_mem_filter hmem)

end Classifier

def sighted (name : String) (size : UInt32) : Cluster where
  metadata := { name := some name, scope := some "default" }
  spec := { size := size }

end Watch
end NatsFleet
