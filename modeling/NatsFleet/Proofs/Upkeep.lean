import NatsFleet.Proofs.Alone
import Mathlib.Data.List.Nodup

/-!
What a plan does with a cluster that has its declared size. Broken pods of another revision go at
once; else, while all pods serve, the first outdated one goes; else all of them stay.
-/
namespace NatsFleet

namespace Pod

def isFinished (pod : Pod) : Bool := (PodPhase.ofPod pod).isTerminated

def IsReady (pod : Pod) : Prop :=
  ∃ condition ∈ (pod.status.bind (·.conditions)).getD [],
    condition.type = "Ready" ∧ condition.status = "True"

instance (pod : Pod) : Decidable pod.IsReady := inferInstanceAs (Decidable (∃ _ ∈ _, _ ∧ _))

/-- The test of the pod is a condition of type Ready whose status is True. -/
theorem isReady_iff (pod : Pod) : LivePod.isReady pod = true ↔ pod.IsReady := by
  simp only [LivePod.isReady, IsReady, List.any_eq_true, Bool.and_eq_true, beq_iff_eq]
  rfl

def serves (pod : Pod) : Bool := PodPhase.ofPod pod == .running && LivePod.isReady pod

/-- A pod serves if it runs and is ready. -/
theorem serves_iff (pod : Pod) :
    pod.serves = true ↔ PodPhase.ofPod pod = .running ∧ pod.IsReady := by
  rw [serves, Bool.and_eq_true, beq_iff_eq, isReady_iff]

def isOutdated (spec : ClusterSpec) (pod : Pod) : Bool :=
  pod.metadata.label? Layout.revisionLabel != some (Revision.ofSpec spec)

/-- Such a pod is not over. -/
theorem isFinished_of_serves {pod : Pod} (h : pod.serves = true) : pod.isFinished = false := by
  rw [serves, Bool.and_eq_true, beq_iff_eq] at h
  rw [isFinished, h.1]
  rfl

/-- A pod that is built from a spec is up to date by that spec. -/
theorem isOutdated_built (id : Identity) (spec : ClusterSpec) (name : String) :
    (Manifest.pod id spec name).isOutdated spec = false := by
  have hlabel := (Platform.label?_pod id spec name Layout.revisionLabel).trans (if_pos rfl)
  rw [isOutdated, hlabel, bne_self_eq_false]

end Pod

def LivePod.isBroken (revision : String) (p : LivePod) : Bool :=
  p.isOutdated revision && !p.isHealthy

namespace Plan

variable {id : Identity} {spec : ClusterSpec} {listed : List Pod} {pods : List LivePod}

@[simp] theorem isHealthy_ofPod (id : Identity) (pod : Pod) :
    (LivePod.ofPod id pod).isHealthy = pod.serves := rfl

@[simp] theorem isOutdated_ofPod (id : Identity) (spec : ClusterSpec) (pod : Pod) :
    (LivePod.ofPod id pod).isOutdated (Revision.ofSpec spec) = pod.isOutdated spec := rfl

/-- What `refresh` does is one of three things. -/
inductive Refreshed (revision : String) (pods : List LivePod) :
    List Removal × List LivePod → Prop
  | broken {p : LivePod} (hp : p ∈ pods) (hbroken : p.isBroken revision = true) :
      Refreshed revision pods ((pods.filter (LivePod.isBroken revision)).map (removal .broken),
        pods.filter fun p => !p.isBroken revision)
  | outdated {p : LivePod} {kept : List LivePod} (hpods : pods.Perm (p :: kept))
      (hserving : ∀ q ∈ pods, q.isHealthy = true)
      (hfirst : pods.find? (LivePod.isOutdated revision) = some p) :
      Refreshed revision pods ([removal .outdated p], kept)
  | none (hbroken : ∀ q ∈ pods, q.isBroken revision = false)
      (hheld : (∃ q ∈ pods, q.isHealthy = false) ∨ ∀ q ∈ pods, q.isOutdated revision = false) :
      Refreshed revision pods ([], pods)

/-- A refresh removes the broken pods, else the first outdated one if all pods serve, else none. -/
theorem refreshed (revision : String) (pods : List LivePod) :
    Refreshed revision pods (refresh revision pods) := by
  unfold refresh
  dsimp only
  split
  · rename_i hbroken
    rw [Bool.not_eq_true', List.isEmpty_eq_false_iff_exists_mem] at hbroken
    obtain ⟨p, hp⟩ := hbroken
    rw [List.mem_filter] at hp
    exact .broken hp.1 hp.2
  · rename_i hbroken
    have hnone : ∀ q ∈ pods, q.isBroken revision = false := by
      simpa [LivePod.isBroken] using hbroken
    have hall : (pods.filter fun p => !(p.isOutdated revision && !p.isHealthy)) = pods :=
      List.filter_eq_self.mpr fun q hq => congrArg not (hnone q hq)
    rw [hall]
    -- Without broken pods, one outdated pod goes if all serve.
    split
    · rename_i hserving
      rw [List.all_eq_true] at hserving
      split
      · rename_i hfound
        have hcurrent : ∀ q ∈ pods, q.isOutdated revision = false := by
          simpa using List.find?_eq_none.mp hfound
        exact .none hnone (.inr hcurrent)
      · rename_i p hfound
        exact .outdated (perm_cons_eraseIdx _ _ p hfound) hserving hfound
    · rename_i hserving
      have hunwell : ∃ q ∈ pods, q.isHealthy = false := by
        simpa using hserving
      exact .none hnone (.inl hunwell)

/-- None of the kept pods is broken; and there are fewer of them, or all stay because one does not
serve or none is outdated. -/
theorem Refreshed.leaves {revision : String} {removals : List Removal} {kept : List LivePod}
    (h : Refreshed revision pods (removals, kept)) :
    (∀ q ∈ kept, q.isBroken revision = false) ∧
      (kept.length < pods.length ∨ removals = [] ∧
        ((∃ q ∈ pods, q.isHealthy = false) ∨ ∀ q ∈ pods, q.isOutdated revision = false)) := by
  cases h with
  | @broken p hp hbroken =>
    have hfewer : (pods.filter fun p => !p.isBroken revision).length < pods.length :=
      List.length_filter_lt_length_iff_exists.mpr ⟨p, hp, by simp [hbroken]⟩
    refine ⟨fun q hq => ?_, .inl hfewer⟩
    simpa using (List.mem_filter.mp hq).2
  | @outdated p kept hpods hserving hfirst =>
    refine ⟨fun q hq => ?_, .inl ?_⟩
    · have hwell := hserving q (hpods.mem_iff.mpr (List.mem_cons_of_mem _ hq))
      rw [LivePod.isBroken, hwell, Bool.not_true, Bool.and_false]
    · rw [hpods.length_eq, List.length_cons]
      exact Nat.lt_succ_self _
  | none hbroken hheld => exact ⟨hbroken, .inr ⟨rfl, hheld⟩⟩

def remaining (id : Identity) (spec : ClusterSpec) (listed : List Pod) : List Pod :=
  (present listed).filter fun pod =>
    pod.name ∉ (ofListing id spec listed).removals.map Removal.name

/-- Where nothing is removed all pods remain. -/
theorem remaining_eq (h : (ofListing id spec listed).removals = []) :
    remaining id spec listed = present listed := by
  rw [remaining, h]
  exact List.filter_eq_self.mpr fun pod _ => by simp

/-- The live pods are those that are present and not over. -/
theorem mem_live {q : LivePod} : q ∈ live id listed ↔
    ∃ pod ∈ present listed, pod.isFinished = false ∧ LivePod.ofPod id pod = q := by
  rw [(live_perm id listed).mem_iff, List.mem_map]
  simp only [List.mem_filter, Bool.not_eq_true', and_assoc]
  rfl

/-- The kept pods are the ones that the plan leaves. -/
theorem kept_perm (id : Identity) (spec : ClusterSpec)
    (hnames : ((present listed).map Pod.name).Nodup) :
    (ofListing id spec listed).kept.Perm ((remaining id spec listed).map (LivePod.ofPod id)) := by
  let plan := ofListing id spec listed
  have hall : (plan.removals.map Removal.name ++ plan.keptNames).Perm
      ((present listed).map Pod.name) := removals_append_kept_names id spec listed
  obtain ⟨-, hkeptNames, hdisjoint⟩ := List.nodup_append.mp (hall.nodup_iff.mpr hnames)
  have hremaining : ((remaining id spec listed).map (LivePod.ofPod id)).Nodup := by
    refine List.Nodup.of_map (fun q => q.record.name) ?_
    rw [List.map_map]
    exact hnames.sublist (List.filter_sublist.map _)
  -- Both lists are without repetition, so it is enough that they have the same members.
  refine (List.perm_ext_iff_of_nodup hkeptNames.of_map hremaining).mpr fun q => ?_
  rw [List.mem_map]
  constructor
  · intro hq
    obtain ⟨pod, hpod, -, rfl⟩ := mem_live.mp ((kept_sublist id spec listed).subset hq)
    have hname : pod.name ∈ plan.keptNames := List.mem_map.mpr ⟨_, hq, rfl⟩
    refine ⟨pod, List.mem_filter.mpr ⟨hpod, decide_eq_true fun hremoved => ?_⟩, rfl⟩
    exact hdisjoint _ hremoved _ hname rfl
  · rintro ⟨pod, hpod, rfl⟩
    obtain ⟨hpod, hstays⟩ := List.mem_filter.mp hpod
    have hname : pod.name ∈ plan.removals.map Removal.name ++ plan.keptNames :=
      hall.mem_iff.mpr (List.mem_map_of_mem hpod)
    rcases List.mem_append.mp hname with hname | hname
    · exact absurd hname (of_decide_eq_true hstays)
    · obtain ⟨q, hq, hqname⟩ := List.mem_map.mp hname
      obtain ⟨other, hother, -, rfl⟩ := mem_live.mp ((kept_sublist id spec listed).subset hq)
      -- A kept pod of this name is this pod.
      obtain rfl : other = pod := List.inj_on_of_nodup_map hnames hother hpod hqname
      exact hq

/-- A cluster has its declared size, and none of its pods has finished. -/
structure Full (spec : ClusterSpec) (pods : List Pod) : Prop where
  size : pods.length = spec.size.toNat
  unfinished : ∀ pod ∈ pods, pod.isFinished = false

/-- A full cluster has no broken pod of another revision; and one of its pods does not serve, which
holds back replacements, or there is nothing to replace. -/
structure Settled (spec : ClusterSpec) (pods : List Pod) : Prop extends Full spec pods where
  unbroken : ∀ pod ∈ pods, pod.isOutdated spec = true → pod.serves = true
  held : (∃ pod ∈ pods, pod.serves = false) ∨ ∀ pod ∈ pods, pod.isOutdated spec = false

/-- Of a full cluster all pods are live. -/
theorem Full.live_perm (h : Full spec (present listed)) (id : Identity) :
    (live id listed).Perm ((present listed).map (LivePod.ofPod id)) := by
  have hall : ((present listed).filter fun pod => !(PodPhase.ofPod pod).isTerminated) =
      present listed := List.filter_eq_self.mpr fun pod hpod => congrArg not (h.unfinished pod hpod)
  have hlive := Plan.live_perm id listed
  rwa [hall] at hlive

/-- They are as many as the spec asks for. -/
theorem Full.live_length (h : Full spec (present listed)) (id : Identity) :
    (live id listed).length = spec.size.toNat := by
  rw [(h.live_perm id).length_eq, List.length_map, h.size]

/-- The plan for as many live pods as declared. -/
theorem ofListing_of_length (h : (live id listed).length = spec.size.toNat) :
    ofListing id spec listed =
      { removals := terminated listed ++ (refresh (Revision.ofSpec spec) (live id listed)).1
        kept := (refresh (Revision.ofSpec spec) (live id listed)).2
        observed := (live id listed).length
        replaced := !(refresh (Revision.ofSpec spec) (live id listed)).1.isEmpty } := by
  unfold ofListing
  dsimp only
  rw [if_neg (by omega), if_pos h]

/-- As many live pods as declared are refreshed, after those that have finished are removed. -/
theorem refreshed_of_length (h : (live id listed).length = spec.size.toNat) : ∃ removals kept,
    (ofListing id spec listed).removals = terminated listed ++ removals ∧
      (ofListing id spec listed).kept = kept ∧
      Refreshed (Revision.ofSpec spec) (live id listed) (removals, kept) := by
  rw [ofListing_of_length h]
  exact ⟨_, _, rfl, rfl, Plan.refreshed _ _⟩

/-- A full cluster is only refreshed. -/
theorem Full.refreshed (h : Full spec (present listed)) (id : Identity) : ∃ removals kept,
    (ofListing id spec listed).removals = removals ∧ (ofListing id spec listed).kept = kept ∧
      Refreshed (Revision.ofSpec spec) (live id listed) (removals, kept) := by
  have hterminated : terminated listed = [] := by
    rw [terminated, List.map_eq_nil_iff, List.filter_eq_nil_iff]
    intro pod hpod
    exact Bool.not_eq_true _ ▸ h.unfinished pod hpod
  have hrefreshed := refreshed_of_length (h.live_length id)
  rwa [hterminated] at hrefreshed

/-- A pass leaves settled members alone. -/
theorem Settled.plan (h : Settled spec (present listed)) (id : Identity) :
    (ofListing id spec listed).removals = [] ∧ (ofListing id spec listed).shortfall spec = 0 := by
  -- Neither kind of replacement is due, so the plan keeps all live pods.
  obtain ⟨removals, kept, hremovals, hkept, hrefreshed⟩ := h.toFull.refreshed id
  rw [shortfall, hremovals, hkept]
  have hunbroken : ∀ q ∈ live id listed, q.isBroken (Revision.ofSpec spec) = false := by
    intro q hq
    obtain ⟨pod, hpod, -, rfl⟩ := mem_live.mp hq
    have hpod' := h.unbroken pod hpod
    rw [LivePod.isBroken, isOutdated_ofPod, isHealthy_ofPod]
    cases hout : pod.isOutdated spec
    · rfl
    · rw [hpod' hout]
      rfl
  have hmem : ∀ pod ∈ present listed, LivePod.ofPod id pod ∈ live id listed := fun pod hpod =>
    mem_live.mpr ⟨pod, hpod, h.unfinished pod hpod, rfl⟩
  cases hrefreshed with
  | broken hp hbroken => exact absurd (hunbroken _ hp) (by simp [hbroken])
  | @outdated p kept hpods hserving hfirst =>
    have hp := List.find?_some hfirst
    rcases h.held with ⟨pod, hpod, hunwell⟩ | hcurrent
    · have hwell := hserving _ (hmem pod hpod)
      rw [isHealthy_ofPod, hunwell] at hwell
      cases hwell
    · obtain ⟨pod, hpod, -, rfl⟩ := mem_live.mp (hpods.mem_iff.mpr List.mem_cons_self)
      rw [isOutdated_ofPod, hcurrent pod hpod] at hp
      cases hp
  | none hbroken hheld => exact ⟨rfl, by rw [h.live_length id, Nat.sub_self]⟩

theorem ofPod_mem_kept (hnames : ((present listed).map Pod.name).Nodup) {pod : Pod}
    (hpod : pod ∈ remaining id spec listed) :
    LivePod.ofPod id pod ∈ (ofListing id spec listed).kept :=
  (kept_perm id spec hnames).mem_iff.mpr (List.mem_map_of_mem hpod)

variable {new : List Pod}

/-- The pods that stay and the new ones make up the declared size, whatever there was. -/
theorem length_next (hnames : ((present listed).map Pod.name).Nodup)
    (hlength : new.length = (ofListing id spec listed).shortfall spec) :
    (remaining id spec listed ++ new).length = spec.size.toNat := by
  have hkept := (kept_perm id spec hnames).length_eq
  have hsize := kept_add_shortfall id spec listed
  rw [keptNames, List.length_map] at hsize
  rw [List.length_map] at hkept
  rw [List.length_append, ← hkept, hlength, hsize]

/-- After a pass the cluster is full again. -/
theorem full_next (hnames : ((present listed).map Pod.name).Nodup)
    (hlength : new.length = (ofListing id spec listed).shortfall spec)
    (hnew : ∀ pod ∈ new, pod.isFinished = false) :
    Full spec (remaining id spec listed ++ new) := by
  refine ⟨length_next hnames hlength,
    List.forall_mem_append.mpr ⟨fun pod hpod => ?_, hnew⟩⟩
  have hlive := (kept_sublist id spec listed).subset (ofPod_mem_kept hnames hpod)
  obtain ⟨other, -, hother, hsame⟩ := mem_live.mp hlive
  have hphase : PodPhase.ofPod other = PodPhase.ofPod pod :=
    congrArg (fun q => q.record.phase) hsame
  rw [Pod.isFinished, ← hphase]
  exact hother

/-- A new pod that does not serve yet holds back further replacements. -/
theorem held_by_new (hlength : new.length = (ofListing id spec listed).shortfall spec)
    (hunwell : ∀ pod ∈ new, pod.serves = false)
    (hfewer : (ofListing id spec listed).kept.length < spec.size.toNat) :
    ∃ pod ∈ remaining id spec listed ++ new, pod.serves = false := by
  have hpos : 0 < new.length := by
    rw [hlength, shortfall]
    omega
  obtain ⟨pod, hpod⟩ := List.exists_mem_of_length_pos hpos
  exact ⟨pod, List.mem_append_right _ hpod, hunwell pod hpod⟩

/-- If no kept pod is broken and no new one outdated, there is nothing broken left. -/
theorem unbroken_next (hnames : ((present listed).map Pod.name).Nodup)
    (hkept : ∀ q ∈ (ofListing id spec listed).kept, q.isBroken (Revision.ofSpec spec) = false)
    (hcurrent : ∀ pod ∈ new, pod.isOutdated spec = false) :
    ∀ pod ∈ remaining id spec listed ++ new, pod.isOutdated spec = true → pod.serves = true := by
  refine List.forall_mem_append.mpr ⟨fun pod hpod hout => ?_, fun pod hpod hout => ?_⟩
  · have hunbroken := hkept _ (ofPod_mem_kept hnames hpod)
    rw [LivePod.isBroken, isOutdated_ofPod, isHealthy_ofPod, hout, Bool.true_and] at hunbroken
    simpa using hunbroken
  · rw [hcurrent pod hpod] at hout
    cases hout

/-- A pass that finds a full cluster leaves settled members, if new pods are of the present revision
and do not serve at once. -/
theorem Full.settled_next (h : Full spec (present listed))
    (hnames : ((present listed).map Pod.name).Nodup)
    (hlength : new.length = (ofListing id spec listed).shortfall spec)
    (hunfinished : ∀ pod ∈ new, pod.isFinished = false) (hunwell : ∀ pod ∈ new, pod.serves = false)
    (hcurrent : ∀ pod ∈ new, pod.isOutdated spec = false) :
    Settled spec (remaining id spec listed ++ new) := by
  have hheld := held_by_new hlength hunwell
  obtain ⟨removals, kept, hremovals, hkept, hrefreshed⟩ := h.refreshed id
  obtain ⟨hunbroken, hcases⟩ := hrefreshed.leaves
  rw [← hkept] at hunbroken hcases
  refine ⟨full_next hnames hlength hunfinished, unbroken_next hnames hunbroken hcurrent, ?_⟩
  rcases hcases with hfewer | ⟨rfl, ⟨q, hq, hill⟩ | hall⟩
  · rw [h.live_length id] at hfewer
    exact .inl (hheld hfewer)
  · obtain ⟨pod, hpod, -, rfl⟩ := mem_live.mp hq
    rw [remaining_eq hremovals]
    exact .inl ⟨pod, List.mem_append_left _ hpod, hill⟩
  · have hpresent : ∀ pod ∈ present listed, pod.isOutdated spec = false := fun pod hpod =>
      hall _ (mem_live.mpr ⟨pod, hpod, h.unfinished pod hpod, rfl⟩)
    rw [remaining_eq hremovals]
    exact .inr (List.forall_mem_append.mpr ⟨hpresent, hcurrent⟩)

/-- A pass that finds all pods serving replaces one outdated pod, if there is one. -/
theorem Full.replacement (h : Full spec (present listed)) (id : Identity)
    (hnames : ((present listed).map Pod.name).Nodup)
    (hserving : ∀ pod ∈ present listed, pod.serves = true) :
    ((present listed).countP (Pod.isOutdated spec) = 0 ∧
        (ofListing id spec listed).removals = [] ∧ (ofListing id spec listed).shortfall spec = 0) ∨
      ∃ pod ∈ present listed, pod.isOutdated spec = true ∧
        (ofListing id spec listed).removals.map Removal.name = [pod.name] ∧
        (ofListing id spec listed).shortfall spec = 1 ∧
        (remaining id spec listed).countP (Pod.isOutdated spec) + 1 =
          (present listed).countP (Pod.isOutdated spec) := by
  have hlive := h.live_length id
  have hwell : ∀ q ∈ live id listed, q.isHealthy = true := by
    intro q hq
    obtain ⟨pod, hpod, -, rfl⟩ := mem_live.mp hq
    exact hserving pod hpod
  -- The pods and what the plan makes of them are outdated alike.
  have hcount (pods : List Pod) : (pods.map (LivePod.ofPod id)).countP
      (LivePod.isOutdated (Revision.ofSpec spec)) = pods.countP (Pod.isOutdated spec) :=
    List.countP_map
  have hfound := (h.live_perm id).countP_eq (LivePod.isOutdated (Revision.ofSpec spec))
  have hleft := (kept_perm id spec hnames).countP_eq (LivePod.isOutdated (Revision.ofSpec spec))
  rw [hcount] at hfound hleft
  obtain ⟨removals, kept, hremovals, hkept, hrefreshed⟩ := h.refreshed id
  rw [hkept] at hleft
  rw [shortfall, hremovals, hkept, ← hfound, ← hleft]
  cases hrefreshed with
  | @broken p hp hbroken =>
    rw [LivePod.isBroken, hwell p hp, Bool.not_true, Bool.and_false] at hbroken
    cases hbroken
  | @outdated p kept hpods hall hfirst =>
    have hp := List.find?_some hfirst
    obtain ⟨pod, hpod, -, rfl⟩ := mem_live.mp (hpods.mem_iff.mpr List.mem_cons_self)
    refine .inr ⟨pod, hpod, hp, rfl, ?_, ?_⟩
    · rw [← hlive, hpods.length_eq, List.length_cons]
      exact Nat.add_sub_cancel_left _ _
    · rw [hpods.countP_eq, List.countP_cons_of_pos hp]
  | none hbroken hunmoved =>
    refine .inl ⟨?_, rfl, by rw [hlive, Nat.sub_self]⟩
    rcases hunmoved with ⟨q, hq, hunwell⟩ | hcurrent
    · rw [hwell q hq] at hunwell
      cases hunwell
    · rw [List.countP_eq_zero]
      intro q hq
      rw [hcurrent q hq]
      exact Bool.false_ne_true

end Plan

namespace Bench

variable {b b' : Bench} {answers : List Pass.Answered} {planned : List String} {new : List Pod}
  {pod : Pod}

theorem present_members (b : Bench) : Plan.present b.members = b.members := by
  refine List.filter_eq_self.mpr fun pod hpod => ?_
  have hkeep := (List.mem_filter.mp hpod).2
  rw [Bool.and_eq_true] at hkeep
  exact hkeep.1

theorem present_names_nodup (hnames : b.platform.NamesDistinct) :
    ((Plan.present b.members).map Pod.name).Nodup := by
  rw [present_members]
  exact Platform.memberNames_nodup hnames b.identity.name

/-- A pod that was just created is not outdated. -/
theorem Newborn.isOutdated (h : b.Newborn pod) : pod.isOutdated b.controller.spec = false := by
  obtain ⟨p, name, -, rfl⟩ := h
  exact Pod.isOutdated_built b.identity b.controller.spec name

/-- A pod that starts without a status has not finished, and does not serve. -/
theorem Newborn.of_none (h : b.Newborn pod) (hstatus : b.platform.initialStatus = none) :
    pod.isFinished = false ∧ pod.serves = false := by
  obtain ⟨p, name, hp, rfl⟩ := h
  have hphase : PodPhase.ofPod (p.newcomer (Manifest.pod b.identity b.controller.spec name)) =
      .unknown := by
    rw [PodPhase.ofPod, Platform.newcomer, hp, hstatus]
    rfl
  rw [Pod.isFinished, Pod.serves, hphase]
  exact ⟨rfl, rfl⟩

/-- After a pass there are the pods that remained and those created. -/
theorem Turned.members_remaining (h : b.Turned answers b' planned new) :
    b'.members = Plan.remaining b.identity b.controller.spec b.members ++ new := by
  rw [h.members, Plan.remaining, present_members]
  rfl

/-- As many pods are created as were missing. -/
theorem Turned.new_length (h : b.Turned answers b' planned new) :
    new.length = b.plan.shortfall b.controller.spec := by
  rw [← h.planned_length, ← h.new_names, List.length_map]

end Bench

end NatsFleet
