import NatsFleet.Proofs.Midway
import NatsFleet.Proofs.Reordering

/-!
What replacing outdated pods costs. Below the declared size a pass takes no live pod away; at that size
it takes the outdated ones that do not serve, or else the first outdated one while all of them serve.
-/
namespace NatsFleet

namespace Pod

def isLive (pod : Pod) : Bool := !pod.isDeleting && !pod.isFinished

def Serves (pod : Pod) : Prop := PodPhase.ofPod pod = .running ∧ pod.IsReady

instance (pod : Pod) : Decidable pod.Serves := inferInstanceAs (Decidable (_ ∧ _))

theorem not_serves_iff (pod : Pod) : pod.serves = false ↔ ¬ pod.Serves := by
  rw [← Bool.not_eq_true, serves_iff]
  rfl

def isBroken (spec : ClusterSpec) (pod : Pod) : Bool := pod.isOutdated spec && !pod.serves

/-- A live pod is broken if it is outdated and does not serve. -/
theorem isBroken_iff (spec : ClusterSpec) (pod : Pod) :
    pod.isBroken spec = true ↔ pod.isOutdated spec = true ∧ ¬ pod.Serves := by
  rw [isBroken, Bool.and_eq_true, Bool.not_eq_true', not_serves_iff]

/-- Of some live pods, this one is to be replaced: it is broken, or all of them serve and it is the first
one that is outdated. -/
def Due (id : Identity) (spec : ClusterSpec) (live : List Pod) (pod : Pod) : Prop :=
  pod.isOutdated spec = true ∧ (pod.serves = false ∨ (∀ other ∈ live, other.serves = true) ∧
    ∀ other ∈ live, other.isOutdated spec = true →
      (LivePod.ofPod id pod).le (LivePod.ofPod id other) = true)

/-- If one pod is broken, the broken ones are to be replaced. -/
theorem due_iff_isBroken {id : Identity} {spec : ClusterSpec} {live : List Pod} {pod : Pod}
    (h : ∃ other ∈ live, other.isBroken spec = true) :
    pod.Due id spec live ↔ pod.isBroken spec = true := by
  obtain ⟨other, hother, hbroken⟩ := h
  rw [isBroken, Bool.and_eq_true, Bool.not_eq_true'] at hbroken ⊢
  constructor
  · rintro ⟨hout, hill | ⟨hserving, -⟩⟩
    · exact ⟨hout, hill⟩
    · rw [hserving other hother] at hbroken
      cases hbroken.2
  · rintro ⟨hout, hill⟩
    exact ⟨hout, .inl hill⟩

end Pod

namespace Plan

variable {id : Identity} {spec : ClusterSpec} {listed : List Pod} {pods : List LivePod} {pod : Pod}
  {revision : String}

/-- What is found first among pods in their order comes before all others of the kind. -/
theorem find?_eq_some_iff_first (hsorted : pods.Pairwise fun p q => p.le q = true)
    (hnames : (namesOf pods).Nodup) {P : LivePod → Bool} {p : LivePod} :
    pods.find? P = some p ↔ p ∈ pods ∧ P p = true ∧ ∀ q ∈ pods, P q = true → p.le q = true := by
  have hfirst {p : LivePod} (h : pods.find? P = some p) : ∀ q ∈ pods, P q = true → p.le q = true := by
    obtain ⟨-, front, back, rfl, hfront⟩ := List.find?_eq_some_iff_append.mp h
    intro q hq hPq
    rcases List.mem_append.mp hq with hq | hq
    · have hnot := hfront q hq
      rw [hPq] at hnot
      cases hnot
    · rcases List.mem_cons.mp hq with rfl | hq
      · simpa using LivePod.le_total q q
      · exact (List.pairwise_cons.mp (List.pairwise_append.mp hsorted).2.1).1 q hq
  constructor
  · intro h
    exact ⟨List.mem_of_find?_eq_some h, List.find?_some h, hfirst h⟩
  · rintro ⟨hp, hPp, hleast⟩
    obtain ⟨q, hq⟩ := Option.isSome_iff_exists.mp (List.find?_isSome.mpr ⟨p, hp, hPp⟩)
    have hqmem := List.mem_of_find?_eq_some hq
    -- Each of the two comes before the other.
    have hname : p.record.name = q.record.name :=
      LivePod.name_eq_of_le (hleast q hqmem (List.find?_some hq)) (hfirst hq p hp hPp)
    rw [hq, List.inj_on_of_nodup_map hnames hp hqmem hname]

/-- Pods of distinct names are told apart by them. -/
theorem name_mem_iff (hnames : (namesOf pods).Nodup) {some : List LivePod} (hsome : some ⊆ pods)
    {p : LivePod} (hp : p ∈ pods) : p.record.name ∈ namesOf some ↔ p ∈ some := by
  constructor
  · intro hname
    obtain ⟨q, hq, hsame⟩ := List.mem_map.mp hname
    exact List.inj_on_of_nodup_map hnames (hsome hq) hp hsame ▸ hq
  · intro hmem
    exact List.mem_map_of_mem hmem

/-- Which pods are removed when there are as many as declared. -/
theorem Refreshed.removed_iff {removals : List Removal} {kept : List LivePod}
    (h : Refreshed revision pods (removals, kept)) (hsorted : pods.Pairwise fun p q => p.le q = true)
    (hnames : (namesOf pods).Nodup) {p : LivePod} (hp : p ∈ pods) :
    p.record.name ∈ removals.map Removal.name ↔ p.isOutdated revision = true ∧
      (p.isHealthy = false ∨ (∀ q ∈ pods, q.isHealthy = true) ∧
        ∀ q ∈ pods, q.isOutdated revision = true → p.le q = true) := by
  have hbroken_iff (q : LivePod) : q.isBroken revision = true ↔
      q.isOutdated revision = true ∧ q.isHealthy = false := by
    rw [LivePod.isBroken, Bool.and_eq_true, Bool.not_eq_true']
  cases h with
  | @broken r hr hbroken =>
    have hill : ¬ ∀ q ∈ pods, q.isHealthy = true := by
      intro hall
      rw [hbroken_iff, hall r hr] at hbroken
      cases hbroken.2
    have hremoved : ((pods.filter (LivePod.isBroken revision)).map (removal .broken)).map Removal.name =
        namesOf (pods.filter (LivePod.isBroken revision)) := List.map_map
    rw [hremoved, name_mem_iff hnames (List.filter_subset_self _) hp, List.mem_filter, and_iff_right hp,
      hbroken_iff]
    simp only [hill, false_and, or_false]
  | @outdated r kept hpods hserving hfirst =>
    have hr : [r] ⊆ pods := List.cons_subset.mpr ⟨List.mem_of_find?_eq_some hfirst, List.nil_subset _⟩
    have hremoved : p.record.name ∈ [removal .outdated r].map Removal.name ↔
        pods.find? (LivePod.isOutdated revision) = some p := by
      rw [hfirst, Option.some.injEq, eq_comm, ← List.mem_singleton]
      exact name_mem_iff hnames hr hp
    rw [hremoved, find?_eq_some_iff_first hsorted hnames, hserving p hp]
    simp only [hp, true_and, Bool.true_eq_false, false_or, and_congr_right_iff]
    intro hout
    exact (and_iff_right hserving).symm
  | none hbroken hheld =>
    constructor
    · intro hname
      cases hname
    · rintro ⟨hout, hill | ⟨hall, -⟩⟩
      · have hwell := hbroken p hp
        rw [(hbroken_iff p).mpr ⟨hout, hill⟩] at hwell
        cases hwell
      · rcases hheld with ⟨q, hq, hill⟩ | hcurrent
        · rw [hall q hq] at hill
          cases hill
        · rw [hcurrent p hp] at hout
          cases hout

theorem mem_filter_isLive : pod ∈ listed.filter Pod.isLive ↔
    pod ∈ present listed ∧ pod.isFinished = false := by
  rw [present, List.mem_filter, List.mem_filter, Pod.isLive, Bool.and_eq_true, Bool.not_eq_true',
    and_assoc]
  simp

/-- The live pods of a plan are those of the listing, in another order. -/
theorem live_perm_filter (id : Identity) (listed : List Pod) :
    (live id listed).Perm ((listed.filter Pod.isLive).map (LivePod.ofPod id)) := by
  have hfilter : listed.filter Pod.isLive =
      (present listed).filter fun p => !(PodPhase.ofPod p).isTerminated := by
    rw [present, List.filter_filter]
    exact List.filter_congr fun p _ => Bool.and_comm _ _
  rw [hfilter]
  exact live_perm id listed

theorem live_names_nodup (hnames : (listed.map Pod.name).Nodup) : (namesOf (live id listed)).Nodup := by
  have hperm := (live_perm_filter id listed).map (·.record.name)
  rw [List.map_map] at hperm
  exact hperm.nodup_iff.mpr (hnames.sublist (List.filter_sublist.map _))

/-- Pods of distinct names are not removed twice, and not both removed and kept. -/
theorem removals_append_kept_nodup (id : Identity) (spec : ClusterSpec)
    (hnames : (listed.map Pod.name).Nodup) : ((ofListing id spec listed).removals.map Removal.name ++
      (ofListing id spec listed).keptNames).Nodup :=
  (removals_append_kept_names id spec listed).nodup_iff.mpr
    (hnames.sublist (List.filter_sublist.map _))

/-- A pod that has not finished is not removed for that. -/
theorem name_notMem_terminated (hnames : (listed.map Pod.name).Nodup)
    (hpod : pod ∈ listed.filter Pod.isLive) : pod.name ∉ (terminated listed).map Removal.name := by
  rw [terminated, List.map_map, List.mem_map]
  rintro ⟨other, hother, hname⟩
  obtain ⟨hother, hfinished⟩ := List.mem_filter.mp hother
  have hsame : other = pod := List.inj_on_of_nodup_map hnames (List.mem_filter.mp hother).1
    (List.mem_filter.mp hpod).1 hname
  rw [hsame] at hfinished
  have hlive := (mem_filter_isLive.mp hpod).2
  rw [Pod.isFinished, hfinished] at hlive
  cases hlive

/-- Unless there are too many live pods, those are removed that are due among as many as declared. -/
theorem removed_iff_due (hnames : (listed.map Pod.name).Nodup)
    (hsize : (listed.filter Pod.isLive).length ≤ spec.size.toNat)
    (hpod : pod ∈ listed.filter Pod.isLive) :
    pod.name ∈ (ofListing id spec listed).removals.map Removal.name ↔
      (listed.filter Pod.isLive).length = spec.size.toNat ∧
        pod.Due id spec (listed.filter Pod.isLive) := by
  have hperm := live_perm_filter id listed
  have hlength : (live id listed).length = (listed.filter Pod.isLive).length := by
    rw [hperm.length_eq, List.length_map]
  have hterminated := name_notMem_terminated hnames hpod
  -- Below the declared size only pods that have finished are removed.
  by_cases heq : (listed.filter Pod.isLive).length = spec.size.toNat
  · obtain ⟨removals, kept, hremovals, -, hrefreshed⟩ := refreshed_of_length (hlength.trans heq)
    have hmem : LivePod.ofPod id pod ∈ live id listed :=
      hperm.mem_iff.mpr (List.mem_map_of_mem hpod)
    have hforall (P : LivePod → Prop) :
        (∀ q ∈ live id listed, P q) ↔ ∀ q ∈ listed.filter Pod.isLive, P (LivePod.ofPod id q) := by
      simp only [hperm.mem_iff, List.forall_mem_map]
    have hremoved := hrefreshed.removed_iff (live_pairwise id listed) (live_names_nodup hnames) hmem
    rw [hforall, hforall] at hremoved
    rw [hremovals, List.map_append, List.mem_append, or_iff_right hterminated, and_iff_right heq]
    exact hremoved
  · have hremovals : (ofListing id spec listed).removals = terminated listed := by
      unfold ofListing
      dsimp only
      rw [if_neg (by omega), if_neg (by omega)]
    rw [hremovals]
    exact ⟨fun h => absurd h hterminated, fun h => absurd h.1 heq⟩

/-- Among the live pods with a property one comes first in the order of creation. -/
theorem exists_first (id : Identity) {P : LivePod → Bool}
    (hnames : (listed.map Pod.name).Nodup)
    (h : ∃ pod ∈ listed.filter Pod.isLive, P (LivePod.ofPod id pod) = true) :
    ∃ pod ∈ listed.filter Pod.isLive, P (LivePod.ofPod id pod) = true ∧
      ∀ other ∈ listed.filter Pod.isLive, P (LivePod.ofPod id other) = true →
        (LivePod.ofPod id pod).le (LivePod.ofPod id other) = true := by
  have hperm := live_perm_filter id listed
  obtain ⟨pod, hpod, hP⟩ := h
  have hfound : ((live id listed).find? P).isSome = true :=
    List.find?_isSome.mpr ⟨_, hperm.mem_iff.mpr (List.mem_map_of_mem hpod), hP⟩
  obtain ⟨p, hp⟩ := Option.isSome_iff_exists.mp hfound
  obtain ⟨hmem, hPp, hfirst⟩ :=
    (find?_eq_some_iff_first (live_pairwise id listed) (live_names_nodup hnames)).mp hp
  obtain ⟨first, hlive, rfl⟩ := List.mem_map.mp (hperm.mem_iff.mp hmem)
  exact ⟨first, hlive, hPp, fun other hother =>
    hfirst _ (hperm.mem_iff.mpr (List.mem_map_of_mem hother))⟩

/-- What the replacement of outdated pods may take from the live pods of a cluster, which are no more
than declared. -/
structure Spares (spec : ClusterSpec) (live due : List Pod) : Prop where
  -- Below the declared size none may go.
  few : live.length < spec.size.toNat → due = []
  -- At that size all broken ones go, and no other,
  broken : live.length = spec.size.toNat → (∃ pod ∈ live, pod.isOutdated spec = true ∧ ¬ pod.Serves) →
    due = live.filter fun pod => decide (pod.isOutdated spec = true ∧ ¬ pod.Serves)
  -- or, while all of them serve, the first outdated one,
  first : live.length = spec.size.toNat → (∀ pod ∈ live, pod.Serves) →
    (∃ pod ∈ live, pod.isOutdated spec = true) →
    ∃ pod ∈ live, due = [pod] ∧ pod.isOutdated spec = true ∧
      ∀ other ∈ live, other.isOutdated spec = true → other = pod ∨ pod.Precedes other
  -- or none at all.
  none : live.length = spec.size.toNat → (∀ pod ∈ live, pod.isOutdated spec = true → pod.Serves) →
    ((∃ pod ∈ live, ¬ pod.Serves) ∨ ∀ pod ∈ live, pod.isOutdated spec = false) → due = []
  -- So one of the present revision never goes, and one that serves only alone and while all serve.
  outdated : live.length ≤ spec.size.toNat → ∀ pod ∈ due, pod.isOutdated spec = true
  serving : live.length ≤ spec.size.toNat → ∀ pod ∈ due, pod.Serves →
    live.length = spec.size.toNat ∧ (∀ other ∈ live, other.Serves) ∧ due = [pod]

theorem filter_eq_singleton {α : Type} {l : List α} {P : α → Bool} {a : α} (hl : l.Nodup) (ha : a ∈ l)
    (h : ∀ b ∈ l, P b = true ↔ b = a) : l.filter P = [a] := by
  refine List.perm_singleton.mp ?_
  refine (List.perm_ext_iff_of_nodup (hl.filter P) (List.nodup_singleton a)).mpr fun b => ?_
  rw [List.mem_filter, List.mem_singleton]
  constructor
  · rintro ⟨hb, hP⟩
    exact (h b hb).mp hP
  · rintro rfl
    exact ⟨ha, (h b ha).mpr rfl⟩

/-- Of pods that all serve, only the first outdated one is due. -/
theorem due_iff_eq (hnames : (listed.map Pod.name).Nodup) {live : List Pod} (hlive : live ⊆ listed)
    (hserving : ∀ pod ∈ live, pod.serves = true) {first : Pod} (hfirst : first ∈ live)
    (hout : first.isOutdated spec = true)
    (hleast : ∀ other ∈ live, other.isOutdated spec = true →
      (LivePod.ofPod id first).le (LivePod.ofPod id other) = true) (hpod : pod ∈ live) :
    pod.Due id spec live ↔ pod = first := by
  constructor
  · rintro ⟨hpodOut, hill | ⟨-, hpodLeast⟩⟩
    · rw [hserving pod hpod] at hill
      cases hill
    · have hname : pod.name = first.name :=
        LivePod.name_eq_of_le (hpodLeast first hfirst hout) (hleast pod hpod hpodOut)
      exact List.inj_on_of_nodup_map hnames (hlive hpod) (hlive hfirst) hname
  · rintro rfl
    exact ⟨hout, .inr ⟨hserving, hleast⟩⟩

def removedLive (id : Identity) (spec : ClusterSpec) (listed : List Pod) : List Pod :=
  (listed.filter Pod.isLive).filter fun pod =>
    pod.name ∈ (ofListing id spec listed).removals.map Removal.name

/-- A live pod is removed only if it is due, among as many as are declared. -/
theorem due_of_mem_removedLive (hnames : (listed.map Pod.name).Nodup)
    (hsize : (listed.filter Pod.isLive).length ≤ spec.size.toNat)
    (hpod : pod ∈ removedLive id spec listed) :
    pod ∈ listed.filter Pod.isLive ∧ (listed.filter Pod.isLive).length = spec.size.toNat ∧
      pod.Due id spec (listed.filter Pod.isLive) := by
  obtain ⟨hmem, hname⟩ := List.mem_filter.mp hpod
  exact ⟨hmem, (removed_iff_due hnames hsize hmem).mp (of_decide_eq_true hname)⟩

/-- While all pods serve and some are outdated, the first one of these is removed. -/
theorem removedLive_first (hnames : (listed.map Pod.name).Nodup)
    (heq : (listed.filter Pod.isLive).length = spec.size.toNat)
    (hserving : ∀ pod ∈ listed.filter Pod.isLive, pod.serves = true)
    (hout : ∃ pod ∈ listed.filter Pod.isLive, pod.isOutdated spec = true) :
    ∃ pod ∈ listed.filter Pod.isLive, removedLive id spec listed = [pod] ∧
      pod.isOutdated spec = true ∧ ∀ other ∈ listed.filter Pod.isLive,
        other.isOutdated spec = true → (LivePod.ofPod id pod).le (LivePod.ofPod id other) = true := by
  obtain ⟨first, hmem, hout, hleast⟩ :=
    exists_first id (P := LivePod.isOutdated (Revision.ofSpec spec)) hnames hout
  have hnodup : (listed.filter Pod.isLive).Nodup := (List.Nodup.of_map Pod.name hnames).filter _
  -- Names are distinct, so no other pod is as early.
  have hone : removedLive id spec listed = [first] := by
    refine filter_eq_singleton hnodup hmem fun pod hpod => ?_
    rw [decide_eq_true_iff, removed_iff_due hnames heq.le hpod, and_iff_right heq]
    exact due_iff_eq hnames (List.filter_subset_self _) hserving hmem hout hleast hpod
  exact ⟨first, hmem, hone, hout, hleast⟩

/-- Of pods of distinct names, one that is not later than another one is the same or precedes it. -/
theorem eq_or_precedes (hnames : (listed.map Pod.name).Nodup) {p q : Pod} (hp : p ∈ listed)
    (hq : q ∈ listed) (h : (LivePod.ofPod id p).le (LivePod.ofPod id q) = true) :
    q = p ∨ p.Precedes q := by
  by_cases hname : p.name = q.name
  · exact .inl (List.inj_on_of_nodup_map hnames hq hp hname.symm)
  · exact .inr (Pod.precedes_of_le h hname)

/-- What a plan removes of the live pods is what may be taken from them. -/
theorem removedLive_spares (id : Identity) (spec : ClusterSpec)
    (hnames : (listed.map Pod.name).Nodup) :
    Spares spec (listed.filter Pod.isLive) (removedLive id spec listed) := by
  have hmem {pod : Pod} (hpod : pod ∈ listed.filter Pod.isLive) : pod ∈ listed :=
    (List.mem_filter.mp hpod).1
  constructor
  case few =>
    intro hfew
    refine List.eq_nil_iff_forall_not_mem.mpr fun pod hpod => ?_
    exact hfew.ne (due_of_mem_removedLive hnames hfew.le hpod).2.1
  case broken =>
    rintro heq ⟨other, hother, hbroken⟩
    refine List.filter_congr fun pod hpod => ?_
    rw [Bool.eq_iff_iff, decide_eq_true_iff, decide_eq_true_iff, removed_iff_due hnames heq.le hpod,
      and_iff_right heq, ← Pod.isBroken_iff]
    exact Pod.due_iff_isBroken ⟨other, hother, (Pod.isBroken_iff spec other).mpr hbroken⟩
  case first =>
    intro heq hserving hout
    obtain ⟨pod, hpod, hone, hout, hleast⟩ :=
      removedLive_first hnames heq (fun pod hpod => (Pod.serves_iff pod).mpr (hserving pod hpod)) hout
    exact ⟨pod, hpod, hone, hout, fun other hother hold =>
      eq_or_precedes hnames (hmem hpod) (hmem hother) (hleast other hother hold)⟩
  case none =>
    intro heq hwell hheld
    refine List.eq_nil_iff_forall_not_mem.mpr fun pod hpod => ?_
    obtain ⟨hlive, -, hout, hill | ⟨hserving, -⟩⟩ := due_of_mem_removedLive hnames heq.le hpod
    · exact (Pod.not_serves_iff pod).mp hill (hwell pod hlive hout)
    · rcases hheld with ⟨other, hother, hill⟩ | hcurrent
      · exact hill ((Pod.serves_iff other).mp (hserving other hother))
      · rw [hcurrent pod hlive] at hout
        cases hout
  case outdated =>
    intro hsize pod hpod
    exact (due_of_mem_removedLive hnames hsize hpod).2.2.1
  case serving =>
    intro hsize pod hpod hserves
    obtain ⟨hlive, heq, hout, hill | ⟨hserving, -⟩⟩ := due_of_mem_removedLive hnames hsize hpod
    · exact absurd hserves ((Pod.not_serves_iff pod).mp hill)
    · obtain ⟨first, -, hone, -⟩ := removedLive_first hnames heq hserving ⟨pod, hlive, hout⟩
      rw [hone, List.mem_singleton] at hpod
      have hall : ∀ other ∈ listed.filter Pod.isLive, other.Serves := fun other hother =>
        (Pod.serves_iff other).mp (hserving other hother)
      exact ⟨heq, hall, hpod ▸ hone⟩

end Plan

namespace Pass

variable {id : Identity} {fuel : Nat} {spec : ClusterSpec} {m m' : Memory} {a b c : Answered}
  {answers : List Answered} {stage : Stage} {listed : List Pod} {o : Outset}

/-- What has been asked to be removed is the beginning of what the plan removes. -/
theorem Outset.Stands.deleted (h : o.Stands fuel answers stage m) :
    let deleted := (asked o.id answers stage).filterMap Request.deletes?
    deleted <+: o.removed ∧ (stage.isRemoving = false → deleted = o.removed) := by
  intro deleted
  have hwhole (heq : deleted = o.removed) :
      deleted <+: o.removed ∧ (stage.isRemoving = false → deleted = o.removed) :=
    ⟨heq ▸ List.prefix_rfl, fun _ => heq⟩
  cases h with
  | removing hstage hasks hdeleted =>
    have heq : deleted = _ := hasks.deleted
    refine ⟨heq ▸ hdeleted, fun h => ?_⟩
    rw [hstage.1] at h
    cases h
  | naming hstage hasks => exact hwhole hasks.deleted
  | creating w hw hstage hasks hcreated hpods => exact hwhole hasks.deleted
  | created w hw hstage hasks hpods => exact hwhole hasks.deleted

/-- Rolling replacement costs no availability. Whatever comes back, a pass that lists pods of distinct
names asks to delete each pod once at most, and of the live ones only those that are due for
replacement; once it is past its removals, it has asked for all of these. -/
theorem replacements_spare (h : Runs id fuel (start id spec) m (a :: b :: c :: answers) stage m')
    (hlisted : c.reply = .ok listed) (hnames : (listed.map Pod.name).Nodup) :
    let live := listed.filter Pod.isLive
    let deleted := (asked id (a :: b :: c :: answers) stage).filterMap Request.deletes?
    deleted.Nodup ∧ ∃ due, Plan.Spares b.desk.spec live due ∧
      (live.filter fun pod => pod.name ∈ deleted).Sublist due ∧
      (stage.isRemoving = false → (live.filter fun pod => pod.name ∈ deleted) = due) := by
  intro live deleted
  obtain ⟨hbegins, hwhole⟩ := (runs_reached h hlisted).stands.deleted
  have hnodup : ((Plan.ofListing id b.desk.spec listed).removals.map Removal.name).Nodup :=
    (List.nodup_append.mp (Plan.removals_append_kept_nodup id b.desk.spec hnames)).1
  refine ⟨hnodup.sublist hbegins.sublist, Plan.removedLive id b.desk.spec listed,
    Plan.removedLive_spares id b.desk.spec hnames, ?_, fun hpast => ?_⟩
  · refine List.monotone_filter_right _ fun pod hpod => ?_
    exact decide_eq_true (hbegins.subset (of_decide_eq_true hpod))
  · exact congrArg (fun names => live.filter fun pod => decide (pod.name ∈ names)) (hwhole hpast)

def unmarked : Pod := { serving with metadata := { name := some "demo-old" } }

def failed : Pod := { metadata := { name := some "demo-lost" }, status := some { phase := some "Failed" } }

def leaving : Pod :=
  { serving with metadata := { name := some "demo-gone", deletionTimestamp := some ⟨5, 0⟩ } }

def rollout : List Answered × Stage × Memory :=
  replay demo 9 {} ([.error .shutdown, .error .shutdown, .ok [failed, leaving, unmarked],
    .error .shutdown, .error .shutdown].map fun reply => (reply, ⟨20, 0⟩)) (start demo {}) {}

/-- The failed pod and the outdated one that serves are asked to be deleted, and a refusal changes
nothing about that. -/
theorem replacements_spare_rollout :
    Plan.Spares {} [unmarked] [unmarked] ∧
      (asked demo rollout.1 rollout.2.1).filterMap Request.deletes? = ["demo-lost", "demo-old"] := by
  have hnames : ([failed, leaving, unmarked].map Pod.name).Nodup := by decide +kernel
  have hasked : (asked demo rollout.1 rollout.2.1).filterMap Request.deletes? =
      ["demo-lost", "demo-old"] := by decide +kernel
  have hruns : Runs demo 9 (start demo {}) {} rollout.1 rollout.2.1 rollout.2.2 := replay_runs ..
  have hspares : ∃ due, Plan.Spares {} [unmarked] due ∧ ([unmarked].filter fun pod =>
      pod.name ∈ (asked demo rollout.1 rollout.2.1).filterMap Request.deletes?) = due := by
    obtain ⟨-, due, hspares, -, hdue⟩ := replacements_spare hruns rfl hnames
    exact ⟨due, hspares, hdue (by decide +kernel)⟩
  obtain ⟨due, hspares, hdue⟩ := hspares
  rw [hasked] at hdue
  have hone : due = [unmarked] := hdue.symm
  exact ⟨hone ▸ hspares, hasked⟩

end Pass

end NatsFleet
