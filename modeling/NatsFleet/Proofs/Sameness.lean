import NatsFleet.Proofs.Publishing
import Mathlib.Data.Finset.Dedup

/-!
When two lists of conditions say the same. The test compares their lengths and looks in the second list for
the conditions of the first; as long as no type occurs twice in a list, this tells whether the two have the
same observations.
-/
namespace NatsFleet.Condition

def summaries (cs : List Condition) : Finset (String × String × Option String) :=
  (cs.map summary).toFinset

/-- Two lists are the same for the test if they have the same observations, and only then. -/
structure Tested (as bs : List Condition) : Prop where
  iff_summaries : same as bs = true ↔ summaries as = summaries bs
  refl : same as as = true
  symm : same as bs = same bs as
  trans : ∀ cs, same as bs = true → same bs cs = true → same as cs = true
  -- Neither the order of the conditions nor their times and messages matter.
  congr : ∀ as' bs', (as'.map summary).Perm (as.map summary) →
    (bs'.map summary).Perm (bs.map summary) → same as' bs' = same as bs

variable {as bs : List Condition}

/-- Two lists are the same for the test if they have one length and one is contained in the other. -/
theorem same_iff_subset (as bs : List Condition) : same as bs = true ↔
    (as.map summary).length = (bs.map summary).length ∧ as.map summary ⊆ bs.map summary := by
  simp only [same, Bool.and_eq_true, beq_iff_eq, List.all_eq_true, List.any_eq_true, agrees_iff,
    List.length_map]
  refine and_congr_right fun _ => ⟨?_, ?_⟩
  · rintro h x hx
    obtain ⟨a, ha, rfl⟩ := List.mem_map.mp hx
    obtain ⟨b, hb, hab⟩ := h a ha
    exact List.mem_map.mpr ⟨b, hb, hab.symm⟩
  · intro h a ha
    obtain ⟨b, hb, hab⟩ := List.mem_map.mp (h (List.mem_map_of_mem ha))
    exact ⟨b, hb, hab.symm⟩

/-- Conditions of distinct types have distinct summaries. -/
theorem nodup_summary (h : (types as).Nodup) : (as.map summary).Nodup := by
  refine List.Nodup.of_map Prod.fst ?_
  rwa [List.map_map]

/-- Where the first list has no type twice, there is no room in the second for any other observation. -/
theorem same_iff_perm (h : (types as).Nodup) (bs : List Condition) :
    same as bs = true ↔ (as.map summary).Perm (bs.map summary) := by
  rw [same_iff_subset]
  constructor
  · rintro ⟨hlength, hsubset⟩
    exact ((nodup_summary h).subperm hsubset).perm_of_length_le hlength.ge
  · intro hperm
    exact ⟨hperm.length_eq, hperm.subset⟩

/-- With distinct types the test compares sets. -/
theorem same_iff_summaries (has : (types as).Nodup) (hbs : (types bs).Nodup) :
    same as bs = true ↔ summaries as = summaries bs := by
  rw [same_iff_perm has, List.perm_ext_iff_of_nodup (nodup_summary has) (nodup_summary hbs),
    Finset.ext_iff]
  simp only [summaries, List.mem_toFinset]

/-- The order of the conditions does not count. -/
theorem same_of_perm {as' bs' : List Condition} (has : (as'.map summary).Perm (as.map summary))
    (hbs : (bs'.map summary).Perm (bs.map summary)) : same as' bs' = same as bs := by
  rw [Bool.eq_iff_iff, same_iff_subset, same_iff_subset, has.length_eq, hbs.length_eq,
    has.subset_congr_left, hbs.subset_congr_right]

/-- Distinct types are all the test needs. -/
theorem tested (has : (types as).Nodup) (hbs : (types bs).Nodup) : Tested as bs where
  iff_summaries := same_iff_summaries has hbs
  refl := (same_iff_perm has as).mpr (.refl _)
  symm := by
    rw [Bool.eq_iff_iff, same_iff_perm has, same_iff_perm hbs]
    exact List.perm_comm
  trans cs hab hbc :=
    (same_iff_perm has cs).mpr
      (((same_iff_perm has bs).mp hab).trans ((same_iff_perm hbs cs).mp hbc))
  congr _ _ := same_of_perm

/-- For lists without a type that occurs twice, and so for all that observations are put into one after the
other, the test is one of equality of what has been observed. -/
theorem observations_compared (as bs : List Condition) (has : (types as).Nodup) (hbs : (types bs).Nodup) :
    Tested as bs ∧ ∀ calls calls', Tested (setAll [] calls) (setAll [] calls') := by
  have hempty : (types []).Nodup := List.nodup_nil
  have hbuilt (calls : List Condition) : (types (setAll [] calls)).Nodup := nodup_setAll hempty calls
  exact ⟨tested has hbs, fun calls calls' => tested (hbuilt calls) (hbuilt calls')⟩

def resting : List Condition :=
  [⟨"Ready", statusTrue, some "2", some "AllServersReady", some "3/3 servers ready"⟩,
    ⟨"Progressing", statusFalse, some "3", some "UpToDate", none⟩]

def restated : List Condition :=
  [⟨"Progressing", statusFalse, none, some "UpToDate", some "3 of 3 servers created"⟩,
    ⟨"Ready", statusTrue, some "5", some "AllServersReady", none⟩]

theorem observations_compared_restated : (types resting).Nodup ∧ (types restated).Nodup ∧
    Tested resting restated ∧ summaries resting = summaries restated ∧
      same resting restated = true := by
  have hresting : (types resting).Nodup := by decide
  have hrestated : (types restated).Nodup := by decide
  have htested := (observations_compared resting restated hresting hrestated).1
  have hsame : same resting restated = true := by decide
  exact ⟨hresting, hrestated, htested, htested.iff_summaries.mp hsame, hsame⟩

/-- With a type that occurs twice the test depends on which list comes first. -/
example : same [{ type := "Ready" }, { type := "Ready" }]
      [{ type := "Ready" }, { type := "Progressing" }] = true ∧
    same [{ type := "Ready" }, { type := "Progressing" }]
      [{ type := "Ready" }, { type := "Ready" }] = false := by decide

end NatsFleet.Condition
