import NatsFleet.Proofs.Classification
import Mathlib.Logic.Relation

/-!
A reader of the changes that reports amount to keeps a copy of the declared specs: what is added or
updated is stored, and what is deleted is taken out. The copy never departs from the objects that are
remembered, and each change is news to its reader.
-/
namespace NatsFleet.Watch

namespace Change

def store (m : SpecMap) : Change → SpecMap
  | .added c | .updated _ c => Function.update m c.key (some c.spec)
  | .deleted c => Function.update m c.key none

/-- What is added is not in the copy yet, and what is updated is there as it was before, which is not
what it is now. -/
def News (m : SpecMap) : Change → Prop
  | .added c => m c.key = none
  | .updated old new => m new.key = some old.spec ∧ old.spec ≠ new.spec
  | .deleted _ => True

/-- Storing the spec of a change that brings news is what the change means. -/
theorem store_eq_apply {m : SpecMap} {change : Change} (h : change.News m) :
    change.store m = change.apply m := by
  cases change with
  | added c =>
    have hnone : (m c.key).isNone = true := by
      rw [News] at h
      rw [h]
      rfl
    rw [store, apply, if_pos hnone]
  | updated old new => rfl
  | deleted c => rfl

/-- The changes that one report can amount to: none, one that is news, or some deletions. -/
inductive Batch (m : SpecMap) : List Change → Prop
  | none : Batch m []
  | one {change : Change} (h : change.News m) : Batch m [change]
  | gone (clusters : List Cluster) : Batch m (clusters.map .deleted)

variable {m : SpecMap} {changes order : List Change}

theorem Batch.foldl_store (h : Batch m changes) : changes.foldl store m = changes.foldl apply m := by
  cases h with
  | none => rfl
  | one hnews => exact store_eq_apply hnews
  | gone clusters =>
    rw [List.foldl_map, List.foldl_map]
    rfl

/-- Deletions can be taken in in any order. -/
theorem store_deleted_comm (m : SpecMap) (c d : Cluster) :
    (deleted d).store ((deleted c).store m) = (deleted c).store ((deleted d).store m) := by
  simp only [store]
  by_cases hkey : c.key = d.key
  · rw [hkey]
  · exact Function.update_comm hkey _ _ _

/-- The changes of one report can be stored in any order. -/
theorem Batch.foldl_perm (h : Batch m changes) (hperm : order.Perm changes) :
    order.foldl store m = changes.foldl store m := by
  cases h with
  | none => rw [List.perm_nil.mp hperm]
  | one => rw [List.perm_singleton.mp hperm]
  | gone clusters =>
    have hdeleted : ∀ change ∈ order, ∃ c, change = .deleted c := by
      intro change hchange
      obtain ⟨c, -, hc⟩ := List.mem_map.mp (hperm.mem_iff.mp hchange)
      exact ⟨c, hc.symm⟩
    refine hperm.foldl_eq' (fun x hx y hy z => ?_) m
    obtain ⟨c, rfl⟩ := hdeleted x hx
    obtain ⟨d, rfl⟩ := hdeleted y hy
    exact store_deleted_comm z c d

/-- In each order every change still brings news. -/
theorem Batch.news (h : Batch m changes) (hperm : order.Perm changes) {before after : List Change}
    {change : Change} (hsplit : order = before ++ change :: after) :
    change.News (before.foldl store m) := by
  have hmem : change ∈ order := by
    rw [hsplit]
    exact List.mem_append_right _ List.mem_cons_self
  cases h with
  | none => exact absurd (hperm.mem_iff.mp hmem) List.not_mem_nil
  | one hnews =>
    -- The only change is the first one, so the copy is still the one it is news to.
    have hsingle := (List.perm_singleton.mp hperm).symm.trans hsplit
    have hbefore : before = [] := by
      have hlength := congrArg List.length hsingle
      simp only [List.length_append, List.length_cons, List.length_nil] at hlength
      apply List.eq_nil_of_length_eq_zero
      omega
    rw [hbefore] at hsingle ⊢
    rw [List.nil_append, List.cons.injEq] at hsingle
    rw [← hsingle.1]
    exact hnews
  | gone clusters =>
    obtain ⟨c, -, hc⟩ := List.mem_map.mp (hperm.mem_iff.mp hmem)
    rw [← hc]
    trivial

end Change

namespace Classifier

variable {s : Classifier}

theorem apply_batch (s : Classifier) (c : Cluster) : Change.Batch s.specs (s.apply c).1 := by
  unfold apply
  dsimp only
  cases hold : s.seen.find? c.key with
  | none =>
    have hnone : s.specs c.key = none := by rw [specs, hold]; rfl
    exact .one hnone
  | some old =>
    have hsome : s.specs c.key = some old.spec := by rw [specs, hold]; rfl
    dsimp only
    split_ifs with hspec
    · exact .one ⟨hsome, hspec⟩
    · exact .none

/-- A report is turned into such changes. -/
theorem classify_batch (s : Classifier) (r : Report) : Change.Batch s.specs (s.classify r).1 := by
  cases r with
  | listing => exact .none
  | listed c => exact apply_batch { s with relisted := s.relisted.map (c.key :: ·) } c
  | complete =>
    unfold classify
    dsimp only
    split
    · exact .none
    · exact .gone _
  | applied c => exact apply_batch s c
  | deleted c => exact .gone [c]

end Classifier

/-- The orders in which a reader may be given the changes of a report. -/
def Report.Delivers (changes order : List Change) : Report → Prop
  | .complete => order.Perm changes
  | _ => order = changes

theorem Report.Delivers.perm {changes order : List Change} {r : Report}
    (h : r.Delivers changes order) : order.Perm changes := by
  cases r with
  | complete => exact h
  | _ => exact .of_eq h

structure Replica where
  classifier : Classifier := {}
  copy : SpecMap := fun _ => none

namespace Replica

inductive Move : Replica → Replica → Prop
  | report (s : Replica) (r : Report) (order : List Change)
      (h : r.Delivers (s.classifier.classify r).1 order) :
      Move s ⟨(s.classifier.classify r).2, order.foldl Change.store s.copy⟩

structure Faithful (s : Replica) : Prop where
  keyed : s.classifier.Keyed
  copy : s.copy = s.classifier.specs

/-- Each move keeps the copy faithful. -/
theorem Move.faithful {s s' : Replica} (h : Move s s') (hs : s.Faithful) : s'.Faithful := by
  obtain ⟨r, order, horder⟩ := h
  have hbatch := Classifier.classify_batch s.classifier r
  refine ⟨Classifier.classify_keyed hs.keyed r, ?_⟩
  calc order.foldl Change.store s.copy
      = order.foldl Change.store s.classifier.specs := by rw [hs.copy]
    _ = (s.classifier.classify r).1.foldl Change.store s.classifier.specs :=
        hbatch.foldl_perm horder.perm
    _ = (s.classifier.classify r).1.foldl Change.apply s.classifier.specs := hbatch.foldl_store
    _ = (s.classifier.classify r).2.specs := Classifier.classify_specs hs.keyed r

/-- Hence it is faithful at every moment. -/
theorem runs_faithful {s : Replica} (h : Relation.ReflTransGen Move {} s) : s.Faithful := by
  induction h with
  | refl => exact ⟨fun e he => absurd he List.not_mem_nil, rfl⟩
  | tail _ hmove ih => exact hmove.faithful ih

/-- After any reports the copy has the specs of the objects that are remembered, and nothing else; and
whatever is reported next, each of its changes is news when its turn comes. -/
theorem copy_follows {s : Replica} (hruns : Relation.ReflTransGen Move {} s) :
    (∀ k, s.copy k = (s.classifier.seen.find? k).map (·.spec)) ∧
      ∀ (r : Report) (order : List Change), r.Delivers (s.classifier.classify r).1 order →
        ∀ before change after, order = before ++ change :: after →
          change.News (before.foldl Change.store s.copy) := by
  have hfaithful := runs_faithful hruns
  refine ⟨fun k => ?_, fun r order horder before change after hsplit => ?_⟩
  · rw [hfaithful.copy]
    rfl
  · have hbatch := Classifier.classify_batch s.classifier r
    rw [← hfaithful.copy] at hbatch
    exact hbatch.news horder.perm hsplit

def told (s : Replica) (r : Report) : Replica where
  classifier := (s.classifier.classify r).2
  copy := (s.classifier.classify r).1.foldl Change.store s.copy

/-- Storing all changes of a report at once is a move. -/
theorem told_move (s : Replica) (r : Report) : Move s (s.told r) := by
  refine .report s r (s.classifier.classify r).1 ?_
  cases r with
  | complete => exact .refl _
  | _ => rfl

def listed : Replica :=
  (((((told {} (.applied (sighted "a" 1))).told (.applied (sighted "b" 1))).told
    (.applied (sighted "c" 1))).told .listing).told (.listed (sighted "a" 2)))

def narrowed : Replica where
  classifier := (listed.classifier.classify .complete).2
  copy := [Change.deleted (sighted "c" 1), .deleted (sighted "b" 1)].foldl Change.store listed.copy

theorem narrowed_runs : Relation.ReflTransGen Move {} narrowed := by
  have hlisted : Relation.ReflTransGen Move {} listed :=
    ((((Relation.ReflTransGen.single (told_move _ _)).tail (told_move _ _)).tail
      (told_move _ _)).tail (told_move _ _)).tail (told_move _ _)
  have hgone : (listed.classifier.gone [⟨"default", "a"⟩]).Perm [sighted "b" 1, sighted "c" 1] :=
    (List.mergeSort_perm _ _).map _
  refine hlisted.tail (.report _ .complete _ ?_)
  exact (List.Perm.swap _ _ _).trans (hgone.map Change.deleted).symm

theorem copy_follows_narrowed : narrowed.copy ⟨"default", "a"⟩ = some { size := 2 } ∧
    narrowed.copy ⟨"default", "b"⟩ = none ∧
    (Change.updated (sighted "a" 2) (sighted "a" 3)).News narrowed.copy := by
  obtain ⟨hcopy, hnews⟩ := copy_follows narrowed_runs
  have hupdated : (narrowed.classifier.classify (.applied (sighted "a" 3))).1 =
      [.updated (sighted "a" 2) (sighted "a" 3)] := rfl
  exact ⟨(hcopy _).trans rfl, (hcopy _).trans rfl,
    hnews (.applied (sighted "a" 3)) _ rfl [] _ [] hupdated⟩

end Replica
end NatsFleet.Watch
