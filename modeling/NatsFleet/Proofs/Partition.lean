import NatsFleet.Controller.Plan
import Mathlib.Data.List.Perm.Basic

/-!
A plan divides the pods it finds: each one that is not on its way out is either removed or kept, and
the kept pods and the new ones make up the declared size.
-/
namespace NatsFleet.Plan

def namesOf (pods : List LivePod) : List String := pods.map (·.record.name)

/-- A plan has no regard for pods that are on their way out. -/
theorem ofListing_congr (id : Identity) (spec : ClusterSpec) {listed listed' : List Pod}
    (h : present listed = present listed') : ofListing id spec listed = ofListing id spec listed' := by
  rw [ofListing, ofListing, live, live, terminated, terminated, h]

/-- Pods on their way out are left out once. -/
theorem present_present (listed : List Pod) : present (present listed) = present listed := by
  rw [present, present, List.filter_filter]
  simp only [Bool.and_self]

/-- The live pods of a plan are the present ones that have not finished. -/
theorem live_perm (id : Identity) (listed : List Pod) :
    (live id listed).Perm (((present listed).filter fun p => !(PodPhase.ofPod p).isTerminated).map
      (LivePod.ofPod id)) :=
  List.mergeSort_perm _ _

theorem mem_live_address (id : Identity) (listed : List Pod) (q : LivePod)
    (hq : q ∈ live id listed) :
    q.record.address = Manifest.routeAddress q.record.name id.name id.namespaceName := by
  obtain ⟨p, -, rfl⟩ := List.mem_map.mp ((live_perm id listed).mem_iff.mp hq)
  rfl

/-- Every pod that is not on its way out has finished or is live. -/
theorem terminated_append_live_names (id : Identity) (listed : List Pod) :
    ((terminated listed).map Removal.name ++ namesOf (live id listed)).Perm
      ((present listed).map Pod.name) := by
  have hlive : (namesOf (live id listed)).Perm
      (((present listed).filter fun p => !(PodPhase.ofPod p).isTerminated).map Pod.name) := by
    have h := (live_perm id listed).map (·.record.name)
    rw [List.map_map] at h
    exact h
  have hterminated : (terminated listed).map Removal.name =
      ((present listed).filter fun p => (PodPhase.ofPod p).isTerminated).map Pod.name := by
    rw [terminated, List.map_map]
    rfl
  rw [hterminated]
  -- Having finished is what the two halves are told apart by.
  refine (hlive.append_left _).trans ?_
  rw [← List.map_append]
  exact (List.filter_append_perm _ _).map _

/-- What is found first is all that is missing after it is taken out. -/
theorem perm_cons_eraseIdx {α : Type} (P : α → Bool) (l : List α) (a : α)
    (h : l.find? P = some a) : l.Perm (a :: l.eraseIdx (l.findIdx P)) := by
  induction l with
  | nil => simp at h
  | cons b l ih =>
    by_cases hb : P b = true
    · have hab : b = a := by simpa [List.find?_cons, hb] using h
      subst hab
      simp [List.findIdx_cons, hb]
    · have hl : l.find? P = some a := by simpa [List.find?_cons, hb] using h
      have hi : (b :: l).findIdx P = l.findIdx P + 1 := by simp [List.findIdx_cons, hb]
      rw [hi, List.eraseIdx_cons_succ]
      exact ((ih hl).cons b).trans (List.Perm.swap a b _)

/-- What `refresh` removes and what it keeps are the pods it was given. -/
theorem refresh_perm (revision : String) (pods : List LivePod) :
    ((refresh revision pods).1.map Removal.name ++ namesOf (refresh revision pods).2).Perm
      (namesOf pods) := by
  let isBroken (p : LivePod) := p.isOutdated revision && !p.isHealthy
  have hsplit : (pods.filter isBroken ++ pods.filter fun p => !isBroken p).Perm pods :=
    List.filter_append_perm _ _
  unfold refresh
  dsimp only
  split
  · -- All broken pods of another revision go at once.
    rw [List.map_map]
    have h := hsplit.map (·.record.name)
    rw [List.map_append] at h
    exact h
  · rename_i hbroken
    have hnil : pods.filter isBroken = [] := by simpa [isBroken] using hbroken
    rw [hnil, List.nil_append] at hsplit
    -- Without broken ones, at most one outdated pod goes, and only if all are ready.
    split
    · split
      · exact hsplit.map _
      · rename_i p hp
        exact ((perm_cons_eraseIdx _ _ p hp).symm.trans hsplit).map (·.record.name)
    · exact hsplit.map _

/-- A refresh drops pods, and changes the order of none. -/
theorem refresh_sublist (revision : String) (pods : List LivePod) :
    (refresh revision pods).2.Sublist pods := by
  unfold refresh
  dsimp only
  split
  · exact List.filter_sublist
  · split
    · split
      · exact List.filter_sublist
      · exact (List.eraseIdx_sublist _ _).trans List.filter_sublist
    · exact List.filter_sublist

/-- The kept pods are live ones in their order. -/
theorem kept_sublist (id : Identity) (spec : ClusterSpec) (listed : List Pod) :
    (ofListing id spec listed).kept.Sublist (live id listed) := by
  unfold ofListing
  dsimp only
  split
  · exact List.take_sublist _ _
  · split
    · exact refresh_sublist _ _
    · exact List.Sublist.refl _

/-- No more pods are kept than are declared. -/
theorem kept_length_le (id : Identity) (spec : ClusterSpec) (listed : List Pod) :
    (ofListing id spec listed).kept.length ≤ spec.size.toNat := by
  unfold ofListing
  dsimp only
  split
  · exact List.length_take_le _ _
  · split
    · rename_i heq
      exact heq ▸ (refresh_sublist _ _).length_le
    · dsimp only
      omega

/-- Every pod that is not on its way out is removed or kept, and none is both. -/
theorem removals_append_kept_names (id : Identity) (spec : ClusterSpec) (listed : List Pod) :
    ((ofListing id spec listed).removals.map Removal.name ++
      (ofListing id spec listed).keptNames).Perm ((present listed).map Pod.name) := by
  refine List.Perm.trans ?_ (terminated_append_live_names id listed)
  unfold ofListing keptNames
  dsimp only
  split
  · -- Too many pods: the first ones stay.
    have h : ((live id listed).take spec.size.toNat ++ (live id listed).drop spec.size.toNat) =
        live id listed := List.take_append_drop _ _
    rw [List.map_append, List.append_assoc, List.map_map]
    refine List.Perm.append_left _ ?_
    refine (List.perm_append_comm.trans ?_).trans (List.Perm.of_eq (congrArg namesOf h))
    rw [namesOf, List.map_append]
    exact ((List.reverse_perm _).map _).append_left _
  · split
    · -- As many as declared: some may be replaced.
      rw [List.map_append, List.append_assoc]
      exact (refresh_perm _ _).append_left _
    · exact List.Perm.refl _

/-- Kept pods and missing ones make up the declared size. -/
theorem kept_add_shortfall (id : Identity) (spec : ClusterSpec) (listed : List Pod) :
    (ofListing id spec listed).keptNames.length + (ofListing id spec listed).shortfall spec =
      spec.size.toNat := by
  have h := kept_length_le id spec listed
  simp only [keptNames, List.length_map, shortfall]
  omega

/-- The routes are the addresses of the kept and the new pods. -/
theorem routes_eq (id : Identity) (spec : ClusterSpec) (listed : List Pod) (planned : List String) :
    (ofListing id spec listed).routes id planned =
      ((ofListing id spec listed).keptNames ++ planned).map fun name =>
        Manifest.routeAddress name id.name id.namespaceName := by
  rw [List.map_append, keptNames, List.map_map, routes]
  congr 1
  apply List.map_congr_left
  intro q hq
  exact mem_live_address id listed q ((kept_sublist id spec listed).subset hq)

def found (id : Identity) (listed : List Pod) : List LivePod :=
  ((present listed).filter fun p => !(PodPhase.ofPod p).isTerminated).map (LivePod.ofPod id)

def ofLive (spec : ClusterSpec) (gone : List Removal) (pods : List LivePod) : Plan :=
  if spec.size.toNat < pods.length then
    { removals := gone ++ (pods.drop spec.size.toNat).reverse.map (removal .surplus)
      kept := pods.take spec.size.toNat, observed := pods.length, replaced := false }
  else if pods.length = spec.size.toNat then
    let (removals, kept) := refresh (Revision.ofSpec spec) pods
    { removals := gone ++ removals
      kept := kept, observed := pods.length, replaced := !removals.isEmpty }
  else { removals := gone, kept := pods, observed := pods.length, replaced := false }

/-- What becomes of the live pods does not depend on the removals that come first. -/
theorem ofLive_eq (spec : ClusterSpec) (gone : List Removal) (pods : List LivePod) :
    ofLive spec gone pods =
      { ofLive spec [] pods with removals := gone ++ (ofLive spec [] pods).removals } := by
  unfold ofLive
  dsimp only
  split
  · rfl
  · split
    · rfl
    · rw [List.append_nil]

theorem ofListing_eq (id : Identity) (spec : ClusterSpec) (listed : List Pod) :
    ofListing id spec listed =
      { ofLive spec [] (live id listed) with
        removals := terminated listed ++ (ofLive spec [] (live id listed)).removals } := by
  rw [← ofLive_eq]
  rfl

/-- Pods that are listed in their order need no sorting. -/
theorem ofListing_of_pairwise (id : Identity) (spec : ClusterSpec) (listed : List Pod)
    (h : (found id listed).Pairwise fun p q => LivePod.le p q = true) :
    ofListing id spec listed = ofLive spec (terminated listed) (found id listed) := by
  have hlive : live id listed = found id listed := List.mergeSort_of_pairwise h
  rw [← hlive]
  rfl

end NatsFleet.Plan
