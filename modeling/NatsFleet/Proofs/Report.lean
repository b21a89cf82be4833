import NatsFleet.Proofs.Census

/-!
What a pass says of its cluster. Its phase tells how many live pods the pass has found, whether they are
of the present revision and whether the missing ones have been created; its counts are those of the pods
that stay and of the new ones; and it is ready only if it runs and all its pods are.
-/
namespace NatsFleet

def Request.publishes? : Request → Option ClusterStatus
  | .patchStatus _ s => some s
  | _ => none

def ClusterStatus.condition? (s : ClusterStatus) (type : String) : Option Condition :=
  s.conditions.find? fun c => c.type = type

namespace Condition

/-- A renewed condition has the status of the new one. -/
theorem renewed_status (old new : Condition) : (old.renewed new).status = new.status := by
  unfold renewed
  split
  · rfl
  · rename_i hsame
    exact not_not.mp hsame

/-- Among conditions the first one of the type of a new observation has its status afterwards. -/
theorem find?_set (new : Condition) (conditions : List Condition) :
    ((new.set conditions).find? fun c => c.type = new.type).map (·.status) = some new.status := by
  have hfound := ofType?_set new.type new conditions
  rw [if_pos rfl] at hfound
  rw [ofType?] at hfound
  rw [hfound, Option.map_some]
  cases ofType? new.type conditions with
  | none => rfl
  | some c => exact congrArg some (renewed_status c new)

/-- Conditions of other types are found as before. -/
theorem find?_set_of_ne {new : Condition} {type : String} (h : new.type ≠ type)
    (conditions : List Condition) : (new.set conditions).find? (fun c => c.type = type) =
      conditions.find? fun c => c.type = type :=
  (ofType?_set type new conditions).trans (if_neg h)

end Condition

namespace Plan

variable {id : Identity} {spec : ClusterSpec} {listed : List Pod} {planned : List String} {made : ℕ}

/-- The live pods are counted in the listing. -/
theorem live_length (id : Identity) (listed : List Pod) :
    (live id listed).length = (listed.filter Pod.isLive).length := by
  rw [(live_perm_filter id listed).length_eq, List.length_map]

/-- The size observed is the number of live pods. -/
theorem observed_eq (id : Identity) (spec : ClusterSpec) (listed : List Pod) :
    (ofListing id spec listed).observed = (listed.filter Pod.isLive).length := by
  rw [← live_length id]
  unfold ofListing
  dsimp only
  split
  · rfl
  · split <;> rfl

/-- The pods that a plan leaves are the live ones that it does not remove. -/
theorem remaining_eq_filter (id : Identity) (spec : ClusterSpec) (listed : List Pod) :
    remaining id spec listed = (listed.filter Pod.isLive).filter fun pod =>
      pod.name ∉ (ofListing id spec listed).removals.map Removal.name := by
  rw [remaining, present, List.filter_filter, List.filter_filter]
  apply List.filter_congr
  intro pod hpod
  rw [Pod.isLive]
  cases hdeleting : pod.isDeleting with
  | true => rfl
  | false =>
    cases hfinished : pod.isFinished with
    | false => rfl
    | true =>
      -- A pod that has finished is removed.
      have hterminated : pod.name ∈ (terminated listed).map Removal.name := by
        rw [terminated, List.map_map]
        refine List.mem_map.mpr ⟨pod, List.mem_filter.mpr ⟨?_, hfinished⟩, rfl⟩
        exact List.mem_filter.mpr ⟨hpod, by rw [hdeleting]; rfl⟩
      have hremoved : pod.name ∈ (ofListing id spec listed).removals.map Removal.name := by
        rw [ofListing_eq, List.map_append]
        exact List.mem_append_left _ hterminated
      simp [hremoved]

/-- The live pods are of the present revision, in whatever form and order. -/
theorem current_iff (id : Identity) (spec : ClusterSpec) (listed : List Pod) :
    (∀ pod ∈ listed.filter Pod.isLive, pod.isOutdated spec = false) ↔
      ∀ q ∈ live id listed, q.isOutdated (Revision.ofSpec spec) = false := by
  simp only [(live_perm_filter id listed).mem_iff, List.forall_mem_map, isOutdated_ofPod]

/-- If there are as many live pods as declared, the pods that the plan keeps are all of them when they
are of the present revision, and else some are replaced, or kept although they are not. -/
theorem replaced_or_outdated (id : Identity)
    (heq : (listed.filter Pod.isLive).length = spec.size.toNat) :
    let plan := ofListing id spec listed
    (∀ pod ∈ listed.filter Pod.isLive, pod.isOutdated spec = false) ∧ plan.kept = live id listed ∧
        (plan.replaced || plan.outdatedRemains spec) = false ∨
      (∃ pod ∈ listed.filter Pod.isLive, pod.isOutdated spec = true) ∧
        (plan.replaced || plan.outdatedRemains spec) = true := by
  intro plan
  have hlength : (live id listed).length = spec.size.toNat := (live_length id listed).trans heq
  have hplan : plan = _ := ofListing_of_length hlength
  have hrefreshed := Plan.refreshed (Revision.ofSpec spec) (live id listed)
  have houtdated (q : LivePod) (hq : q ∈ live id listed)
      (hout : q.isOutdated (Revision.ofSpec spec) = true) :
      ∃ pod ∈ listed.filter Pod.isLive, pod.isOutdated spec = true := by
    by_contra hnone
    push Not at hnone
    have hcurrent := (current_iff id spec listed).mp fun pod hpod =>
      Bool.not_eq_true _ ▸ hnone pod hpod
    rw [hcurrent q hq] at hout
    cases hout
  rw [hplan, outdatedRemains]
  generalize hrefresh : refresh (Revision.ofSpec spec) (live id listed) = refreshed at hrefreshed
  cases hrefreshed with
  | @broken q hq hbroken =>
    -- A broken pod is outdated, and it is removed.
    have hout : q.isOutdated (Revision.ofSpec spec) = true := by
      rw [LivePod.isBroken, Bool.and_eq_true] at hbroken
      exact hbroken.1
    have hremoved : q ∈ (live id listed).filter (LivePod.isBroken (Revision.ofSpec spec)) :=
      List.mem_filter.mpr ⟨hq, hbroken⟩
    refine .inr ⟨houtdated q hq hout, ?_⟩
    simp [List.ne_nil_of_mem hremoved]
  | @outdated q kept hpods hserving hfirst =>
    exact .inr ⟨houtdated q (List.mem_of_find?_eq_some hfirst) (List.find?_some hfirst), rfl⟩
  | none hbroken hheld =>
    -- Nothing is removed, so an outdated pod would be among the kept ones.
    by_cases hcurrent : ∀ pod ∈ listed.filter Pod.isLive, pod.isOutdated spec = false
    · refine .inl ⟨hcurrent, rfl, ?_⟩
      simpa using (current_iff id spec listed).mp hcurrent
    · have hout : ∃ q ∈ live id listed, q.isOutdated (Revision.ofSpec spec) = true := by
        rw [current_iff id spec] at hcurrent
        push Not at hcurrent
        simpa using hcurrent
      obtain ⟨q, hq, hout⟩ := hout
      refine .inr ⟨houtdated q hq hout, ?_⟩
      simp only [List.isEmpty_nil, Bool.not_true, Bool.false_or, List.any_eq_true]
      exact ⟨q, hq, hout⟩

/-- Which phase there is for some live pods, by whether all missing ones have been created. -/
inductive Phased (spec : ClusterSpec) (live : List Pod) (complete : Prop) : Phase → Prop
  | creating (hnone : live.length = 0) (hpos : 0 < spec.size.toNat) : Phased spec live complete .creating
  | running (heq : live.length = spec.size.toNat) (hcurrent : ∀ pod ∈ live, pod.isOutdated spec = false) :
      Phased spec live complete .running
  | upgrading (heq : live.length = spec.size.toNat) (hout : ∃ pod ∈ live, pod.isOutdated spec = true)
      (hcomplete : complete) : Phased spec live complete .upgrading
  | resizing (hsome : 0 < live.length) (hne : live.length ≠ spec.size.toNat) :
      Phased spec live complete .scaling
  | short (heq : live.length = spec.size.toNat) (hout : ∃ pod ∈ live, pod.isOutdated spec = true)
      (hmissing : ¬ complete) : Phased spec live complete .scaling

/-- What a phase tells of the live pods that were found, and of whether all missing ones were created. -/
structure Tells (spec : ClusterSpec) (live : List Pod) (complete : Prop) (phase : Phase) : Prop where
  creating : phase = .creating ↔ live.length = 0 ∧ 0 < spec.size.toNat
  running : phase = .running ↔
    live.length = spec.size.toNat ∧ ∀ pod ∈ live, pod.isOutdated spec = false
  upgrading : phase = .upgrading ↔
    live.length = spec.size.toNat ∧ (∃ pod ∈ live, pod.isOutdated spec = true) ∧ complete
  scaling : phase = .scaling ↔ phase ≠ .creating ∧ phase ≠ .running ∧ phase ≠ .upgrading

/-- The phases exclude each other. -/
theorem Phased.tells {live : List Pod} {complete : Prop} {phase : Phase}
    (h : Phased spec live complete phase) : Tells spec live complete phase := by
  have hsome (hout : ∃ pod ∈ live, pod.isOutdated spec = true) :
      0 < live.length ∧ ¬ ∀ pod ∈ live, pod.isOutdated spec = false := by
    obtain ⟨pod, hpod, hold⟩ := hout
    refine ⟨List.length_pos_of_mem hpod, fun hcurrent => ?_⟩
    rw [hcurrent pod hpod] at hold
    cases hold
  cases h with
  | creating hnone hpos =>
    refine ⟨iff_of_true rfl ⟨hnone, hpos⟩, ?_, ?_, by simp⟩
    · exact iff_of_false (by simp) fun h => by omega
    · exact iff_of_false (by simp) fun h => by omega
  | running heq hcurrent =>
    refine ⟨?_, iff_of_true rfl ⟨heq, hcurrent⟩, ?_, by simp⟩
    · exact iff_of_false (by simp) fun h => by omega
    · exact iff_of_false (by simp) fun h => (hsome h.2.1).2 hcurrent
  | upgrading heq hout hcomplete =>
    refine ⟨?_, ?_, iff_of_true rfl ⟨heq, hout, hcomplete⟩, by simp⟩
    · exact iff_of_false (by simp) fun h => (hsome hout).1.ne' h.1
    · exact iff_of_false (by simp) fun h => (hsome hout).2 h.2
  | resizing hpos hne =>
    refine ⟨?_, ?_, ?_, by simp⟩
    · exact iff_of_false (by simp) fun h => hpos.ne' h.1
    · exact iff_of_false (by simp) fun h => hne h.1
    · exact iff_of_false (by simp) fun h => hne h.1
  | short heq hout hmissing =>
    refine ⟨?_, ?_, ?_, by simp⟩
    · exact iff_of_false (by simp) fun h => (hsome hout).1.ne' h.1
    · exact iff_of_false (by simp) fun h => (hsome hout).2 h.2
    · exact iff_of_false (by simp) fun h => hmissing h.2.2

/-- Kept and planned pods together are as many as the spec asks for. -/
theorem kept_length_add (hplanned : planned.length = (ofListing id spec listed).shortfall spec) :
    (ofListing id spec listed).kept.length + planned.length = spec.size.toNat := by
  have hsize := kept_add_shortfall id spec listed
  rwa [keptNames, List.length_map, ← hplanned] at hsize

/-- While there are more or fewer live pods than declared, all that matters is whether there are any. -/
theorem phase_of_ne (hne : (listed.filter Pod.isLive).length ≠ spec.size.toNat)
    (hplanned : planned.length = (ofListing id spec listed).shortfall spec) (size : ℕ) :
    (ofListing id spec listed).phase spec planned size =
      if (listed.filter Pod.isLive).length = 0 then .creating else .scaling := by
  have hkept := (kept_sublist id spec listed).length_le
  have hsize := kept_length_add hplanned
  rw [live_length] at hkept
  rw [phase, observed_eq]
  by_cases hnone : (listed.filter Pod.isLive).length = 0
  · have hmissing : planned ≠ [] := by
      rw [← List.length_pos_iff_ne_nil]
      omega
    rw [if_pos ⟨hnone, hmissing⟩, if_pos hnone]
  · rw [if_neg fun h => hnone h.1, if_pos (.inl hne), if_neg hnone]

/-- With as many live pods as asked for, the phase says what becomes of them. -/
theorem phase_of_eq (heq : (listed.filter Pod.isLive).length = spec.size.toNat)
    (hplanned : planned.length = (ofListing id spec listed).shortfall spec) (made : ℕ) :
    (ofListing id spec listed).phase spec planned ((ofListing id spec listed).kept.length + made) =
      if made ≠ planned.length then .scaling
      else if (ofListing id spec listed).replaced || (ofListing id spec listed).outdatedRemains spec
        then .upgrading else .running := by
  have hsize := kept_length_add hplanned
  have hkept := (kept_sublist id spec listed).length_le
  rw [live_length] at hkept
  rw [phase, observed_eq]
  -- Without live pods none is declared, and none is missing.
  have hfirst : ¬ ((listed.filter Pod.isLive).length = 0 ∧ planned ≠ []) := by
    rintro ⟨hnone, hmissing⟩
    rw [← List.length_pos_iff_ne_nil] at hmissing
    omega
  have hshort : ((listed.filter Pod.isLive).length ≠ spec.size.toNat ∨
      (ofListing id spec listed).kept.length + made ≠ spec.size.toNat) ↔ made ≠ planned.length := by
    omega
  rw [if_neg hfirst, if_congr hshort rfl rfl]

/-- The phase tells the truth, however many of the missing pods have been created. -/
theorem phased (hplanned : planned.length = (ofListing id spec listed).shortfall spec)
    (hmade : made ≤ planned.length) :
    Phased spec (listed.filter Pod.isLive) (made = planned.length)
      ((ofListing id spec listed).phase spec planned
        ((ofListing id spec listed).kept.length + made)) := by
  by_cases heq : (listed.filter Pod.isLive).length = spec.size.toNat
  · have hsize := kept_length_add hplanned
    rw [phase_of_eq heq hplanned]
    rcases replaced_or_outdated id heq with ⟨hcurrent, hkept, hquiet⟩ | ⟨hout, hbusy⟩
    · -- All pods are kept, so none is missing.
      have hlength : (ofListing id spec listed).kept.length = spec.size.toNat := by
        rw [hkept, live_length, heq]
      rw [if_neg (by omega), hquiet]
      exact .running heq hcurrent
    · rw [hbusy, if_pos rfl]
      split
      · rename_i hmissing
        exact .short heq hout hmissing
      · rename_i hall
        exact .upgrading heq hout (not_not.mp hall)
  · rw [phase_of_ne heq hplanned]
    split
    · rename_i hnone
      exact .creating hnone (by omega)
    · rename_i hsome
      exact .resizing (Nat.pos_of_ne_zero hsome) heq

end Plan

namespace Pass

variable {id : Identity} {fuel : Nat} {spec : ClusterSpec} {m m' : Memory} {a b c : Answered}
  {answers : List Answered} {stage : Stage} {listed : List Pod} {phase : Phase} {size ready : ℕ}
  {now : Timestamp}

theorem Answered.asked?_eq (a : Answered) : a.asked? = a.request.publishes? := by
  unfold Answered.asked? Request.publishes?
  cases a.request <;> rfl

/-- The condition `Ready` of a status is that of the pass, whatever has been published before. -/
theorem status_ready (spec : ClusterSpec) (phase : Phase) (size ready : ℕ)
    (published : Option ClusterStatus) (now : Timestamp) :
    ((status spec phase size ready published now).condition? "Ready").map (·.status) =
      some (readyCondition spec phase ready now).status := by
  have hother : (progressCondition spec phase size now).type ≠ "Ready" := by
    have htype : (progressCondition spec phase size now).type = "Progressing" := rfl
    rw [htype]
    decide
  have hready : (readyCondition spec phase ready now).type = "Ready" := rfl
  rw [ClusterStatus.condition?, status, Condition.find?_set_of_ne hother, ← hready,
    Condition.find?_set]

/-- The condition says ready of a running cluster with all its pods ready. -/
theorem readyCondition_iff : (readyCondition spec phase ready now).status = Condition.statusTrue ↔
    ready = spec.size.toNat ∧ phase = .running := by
  have hne : Condition.statusFalse ≠ Condition.statusTrue := by decide
  rw [readyCondition]
  dsimp only [Condition.build]
  split
  · rename_i hall
    exact iff_of_true rfl hall
  · rename_i hnot
    exact iff_of_false hne hnot

/-- Some answers contain as many creations as have been asked for exactly if all of them succeeded. -/
theorem created_eq_iff (answers : List Answered) :
    (answers.filterMap Answered.created?).length = (creations answers).length ↔
      ∀ x ∈ answers, x.request.creates?.isSome = true → x.isOk = true := by
  induction answers with
  | nil => simp [creations]
  | cons x rest ih =>
    have hle : (rest.filterMap Answered.created?).length ≤ (creations rest).length := by
      have hsublist := (created_sublist rest).length_le
      rwa [List.length_map] at hsublist
    rw [List.forall_mem_cons, ← ih, creations, List.map_cons]
    cases hpod : x.request.creates? with
    | none =>
      rw [List.filterMap_cons_none (created?_eq_none hpod), List.filterMap_cons_none hpod]
      simp [creations]
    | some pod =>
      have hrequest : x.request = .createPod pod := by
        cases hx : x.request <;> rw [hx] at hpod <;> cases hpod
        rfl
      rw [List.filterMap_cons_some hpod, List.length_cons]
      cases hreply : x.reply with
      | ok listed =>
        have hmade : x.created? = some pod.name := by rw [Answered.created?, hrequest, hreply]
        rw [List.filterMap_cons_some hmade, List.length_cons, Answered.isOk_ok hreply]
        simp [creations]
      | error e =>
        have hmissing : x.created? = none := by rw [Answered.created?, hrequest, hreply]
        rw [List.filterMap_cons_none hmissing, Answered.isOk_error hreply]
        have hlt : (rest.filterMap Answered.created?).length ≠ (creations rest).length + 1 := by omega
        exact iff_of_false hlt fun hall => Bool.false_ne_true (hall.1 rfl)

/-- What a status tells of the live pods that its pass found, of those among them that stay, and of the
pods that it made. -/
structure Truthful (spec : ClusterSpec) (live kept : List Pod) (made : ℕ) (complete : Prop)
    (s : ClusterStatus) : Prop where
  phase : Plan.Tells spec live complete s.phase
  ready : ∃ c, s.condition? "Ready" = some c ∧ (c.status = Condition.statusTrue ↔
    s.phase = .running ∧ ∀ pod ∈ live, pod.IsReady)
  size : s.size.toNat = kept.length + made
  readySize : s.readySize.toNat = (kept.filter fun pod => pod.IsReady).length
  bounds : s.readySize ≤ s.size ∧ s.size ≤ spec.size

/-- A pass that went like this, and asked for this, has computed a status that tells the truth, and has
asked to publish it unless it says nothing new. -/
def Reports (m : Memory) (spec : ClusterSpec) (listed : List Pod) (answers : List Answered)
    (requests : List Request) : Prop :=
  let live := listed.filter Pod.isLive
  let kept := live.filter fun pod => pod.name ∉ requests.filterMap Request.deletes?
  let made := (answers.filterMap Answered.created?).length
  ∃ phase now,
    let s := status spec phase (kept.length + made) (kept.filter fun pod => pod.IsReady).length m.status now
    requests.filterMap Request.publishes? = (if unchanged m.status s then [] else [s]) ∧
      Truthful spec live kept made
        (∀ x ∈ answers, x.request.creates?.isSome = true → x.isOk = true) s

/-- A further reply that is not to a creation does not matter. -/
theorem Reports.of_snoc {requests : List Request} {x : Answered} (hx : x.request.creates? = none)
    (h : Reports m spec listed (answers ++ [x]) requests) : Reports m spec listed answers requests := by
  have hmade : (answers ++ [x]).filterMap Answered.created? = answers.filterMap Answered.created? := by
    rw [List.filterMap_append, List.filterMap_cons_none (created?_eq_none hx), List.filterMap_nil,
      List.append_nil]
  have hcomplete : (∀ y ∈ answers ++ [x], y.request.creates?.isSome = true → y.isOk = true) =
      ∀ y ∈ answers, y.request.creates?.isSome = true → y.isOk = true := by
    rw [List.forall_mem_append, List.forall_mem_singleton, hx]
    simp
  unfold Reports at h ⊢
  rwa [hmade, hcomplete] at h

/-- Counts up to the size are reported as they are. -/
theorem toNat_toUInt32 {n : ℕ} {bound : UInt32} (h : n ≤ bound.toNat) : n.toUInt32.toNat = n := by
  have hlt : n < 2 ^ 32 := lt_of_le_of_lt h bound.toNat_lt
  exact UInt32.toNat_ofNat_of_lt' hlt

/-- The pods that a plan keeps are those of the live ones that a pass does not ask to delete. -/
theorem kept_perm_spared (id : Identity) (spec : ClusterSpec) (hnames : (listed.map Pod.name).Nodup) :
    (Plan.ofListing id spec listed).kept.Perm (((listed.filter Pod.isLive).filter fun pod =>
      pod.name ∉ (Plan.ofListing id spec listed).removals.map Removal.name).map (LivePod.ofPod id)) := by
  have hpresent : ((Plan.present listed).map Pod.name).Nodup :=
    hnames.sublist (List.filter_sublist.map _)
  have hperm := Plan.kept_perm id spec hpresent
  rwa [Plan.remaining_eq_filter] at hperm

/-- The status of a pass that keeps and makes these many pods tells the truth. -/
theorem status_tells {live kept : List Pod} {made : ℕ} {complete : Prop}
    (hphase : Plan.Phased spec live complete phase) (hsize : kept.length + made ≤ spec.size.toNat)
    (hcurrent : phase = .running → kept = live)
    (published : Option ClusterStatus) (now : Timestamp) :
    Truthful spec live kept made complete (status spec phase (kept.length + made)
      (kept.filter fun pod => pod.IsReady).length published now) := by
  have hready : (kept.filter fun pod => pod.IsReady).length ≤ kept.length := List.length_filter_le _ _
  have hsizeNat : (kept.length + made).toUInt32.toNat = kept.length + made := toNat_toUInt32 hsize
  have hreadyNat : (kept.filter fun pod => pod.IsReady).length.toUInt32.toNat =
      (kept.filter fun pod => pod.IsReady).length :=
    toNat_toUInt32 (hready.trans (Nat.le_of_add_right_le hsize))
  refine ⟨hphase.tells, ?_, hsizeNat, hreadyNat, ?_⟩
  · obtain ⟨c, hc, hstatus⟩ := Option.map_eq_some_iff.mp
      (status_ready spec phase (kept.length + made) (kept.filter fun pod => pod.IsReady).length published now)
    refine ⟨c, hc, ?_⟩
    rw [hstatus, readyCondition_iff]
    -- A pass that finds the cluster running keeps all live pods.
    constructor
    · rintro ⟨hall, hrunning⟩
      refine ⟨hrunning, ?_⟩
      obtain ⟨heq, -⟩ := hphase.tells.running.mp hrunning
      rw [hcurrent hrunning, ← heq] at hall
      exact fun pod hpod => of_decide_eq_true (List.length_filter_eq_length_iff.mp hall pod hpod)
    · rintro ⟨hrunning, hall⟩
      obtain ⟨heq, -⟩ := hphase.tells.running.mp hrunning
      rw [hcurrent hrunning, ← heq]
      have hready (pod : Pod) (hpod : pod ∈ live) : decide pod.IsReady = true :=
        decide_eq_true (hall pod hpod)
      exact ⟨List.length_filter_eq_length_iff.mpr hready, hrunning⟩
  · rw [UInt32.le_iff_toNat_le, UInt32.le_iff_toNat_le]
    have hsizeNat' : (status spec phase (kept.length + made) (kept.filter fun pod => pod.IsReady).length
      published now).size.toNat = kept.length + made := hsizeNat
    have hreadyNat' : (status spec phase (kept.length + made) (kept.filter fun pod => pod.IsReady).length
      published now).readySize.toNat = (kept.filter fun pod => pod.IsReady).length := hreadyNat
    omega

/-- A cluster that is found running keeps all its live pods. -/
theorem spared_of_running {planned : List String}
    (hnames : (listed.map Pod.name).Nodup)
    (hplanned : planned.length = (Plan.ofListing id spec listed).shortfall spec) {made : ℕ}
    (hmade : made ≤ planned.length)
    (hrunning : (Plan.ofListing id spec listed).phase spec planned
      ((Plan.ofListing id spec listed).kept.length + made) = .running) :
    ((listed.filter Pod.isLive).filter fun pod =>
      pod.name ∉ (Plan.ofListing id spec listed).removals.map Removal.name) =
        listed.filter Pod.isLive := by
  have htells := (Plan.phased hplanned hmade).tells
  obtain ⟨heq, hcurrent⟩ := htells.running.mp hrunning
  have hkept : (Plan.ofListing id spec listed).kept = Plan.live id listed := by
    rcases Plan.replaced_or_outdated id heq with ⟨-, hkept, -⟩ | ⟨⟨pod, hpod, hold⟩, -⟩
    · exact hkept
    · rw [hcurrent pod hpod] at hold
      cases hold
  have hlength := (kept_perm_spared id spec hnames).length_eq
  rw [hkept, List.length_map, Plan.live_length] at hlength
  exact List.filter_eq_self.mpr (List.length_filter_eq_length_iff.mp hlength.symm)

/-- At the end of a pass there is a record for each pod that stays and for each one that has been made. -/
theorem finished_pods_length
    (h : Runs id fuel (start id spec) m (a :: b :: c :: answers) .finished m')
    (hlisted : c.reply = .ok listed) (hnames : (listed.map Pod.name).Nodup) :
    m'.pods.length = (Plan.ofListing id b.desk.spec listed).kept.length +
      ((a :: b :: c :: answers).filterMap Answered.created?).length := by
  obtain ⟨removed, kept, -, -, hkept⟩ := exists_census id b.desk.spec hnames
  obtain ⟨planned, -, -, hrecords⟩ := (runs_reached h hlisted).stands.fills rfl hnames hkept
  have hlength := (hrecords rfl).2.length_eq
  rw [List.length_append, List.length_map, List.length_map, ← List.length_map (LivePod.ofPod id),
    hkept] at hlength
  exact hlength

namespace Minutes.Sound

variable {r : Minutes id m spec} {spec₀ : ClusterSpec}

/-- As many names are planned as pods are missing. -/
theorem planned_length (h : r.Sound fuel) : r.planned.length = r.plan.shortfall spec := by
  obtain ⟨draws, draws', hplan⟩ := h.planned
  exact Naming.plan_length _ _ _ _ _ _ _ hplan

/-- No more pods are made than are planned, and as many only if all creations succeed. -/
theorem made (h : r.Sound fuel)
    (hservices : [a.request, b.request] = (services id spec₀).map .createService) :
    ((a :: b :: r.answered).filterMap Answered.created?).length ≤ r.planned.length ∧
      (((a :: b :: r.answered).filterMap Answered.created?).length = r.planned.length ↔
        ∀ x ∈ a :: b :: r.answered, x.request.creates?.isSome = true → x.isOk = true) := by
  obtain ⟨-, hcreated, -⟩ := h.asks hservices
  have hlength : (creations (a :: b :: r.answered)).length = r.planned.length := by
    rw [hcreated, List.length_map]
  have hsublist := (created_sublist (a :: b :: r.answered)).length_le
  rw [List.length_map] at hsublist
  rw [← hlength]
  exact ⟨hsublist, created_eq_iff _⟩

/-- The pods that the plan keeps are the live ones that the pass does not ask to delete. -/
theorem kept_perm (h : r.Sound fuel) (hnames : (r.listed.map Pod.name).Nodup)
    (hservices : [a.request, b.request] = (services id spec₀).map .createService) :
    r.plan.kept.Perm (((r.listed.filter Pod.isLive).filter fun pod =>
      pod.name ∉ deletions (a :: b :: r.answered)).map (LivePod.ofPod id)) := by
  obtain ⟨hdeleted, -⟩ := h.asks hservices
  rw [hdeleted]
  exact kept_perm_spared id spec hnames

end Minutes.Sound

/-- The status that a pass has computed when it is over tells the truth. -/
theorem finished_reports
    (h : Runs id fuel (start id spec) m (a :: b :: c :: answers) .finished m')
    (hlisted : c.reply = .ok listed) (hnames : (listed.map Pod.name).Nodup) :
    Reports m b.desk.spec listed (a :: b :: c :: answers)
      ((a :: b :: c :: answers).map (·.request)) := by
  have hpods := finished_pods_length h hlisted hnames
  obtain ⟨hservices, r, hr, hanswers, rfl, rfl, -⟩ := minutes_of_start h hlisted
  rw [hanswers] at hpods ⊢
  let all := a :: b :: r.answered
  let live := r.listed.filter Pod.isLive
  let kept := live.filter fun pod => pod.name ∉ deletions all
  let made := (all.filterMap Answered.created?).length
  obtain ⟨hmade, hcomplete⟩ := hr.made hservices
  have hperm : r.plan.kept.Perm (kept.map (LivePod.ofPod id)) := hr.kept_perm hnames hservices
  have hkept : r.plan.kept.length = kept.length := by rw [hperm.length_eq, List.length_map]
  have hready : r.plan.ready = (kept.filter fun pod => pod.IsReady).length := by
    have hsame (pod : Pod) : decide pod.IsReady = LivePod.isReady pod :=
      Bool.eq_iff_iff.mpr (decide_eq_true_iff.trans (Pod.isReady_iff pod).symm)
    rw [Plan.ready, (hperm.filter _).length_eq, List.filter_map, List.length_map, funext hsame]
    rfl
  have hsize : r.records.length = kept.length + made := hpods.trans (congrArg (· + made) hkept)
  have hstatus : r.status = status b.desk.spec (r.plan.phase b.desk.spec r.planned
      (r.plan.kept.length + made)) (kept.length + made) (kept.filter fun pod => pod.IsReady).length
      m.status r.moment := by
    rw [hkept, ← hsize, ← hready]
    rfl
  refine ⟨r.plan.phase b.desk.spec r.planned (r.plan.kept.length + made), r.moment, ?_,
    status_tells ?_ ?_ ?_ m.status r.moment⟩
  · have hpublishes := hr.asks_status hservices
    rw [funext Answered.asked?_eq, hstatus] at hpublishes
    rw [List.filterMap_map]
    exact hpublishes
  · have hphased := Plan.phased hr.planned_length hmade
    rwa [hcomplete] at hphased
  · calc kept.length + made
      _ ≤ r.plan.kept.length + r.planned.length := Nat.add_le_add hkept.ge hmade
      _ = b.desk.spec.size.toNat := Plan.kept_length_add hr.planned_length
  · intro hrunning
    show kept = live
    have hdeleted : kept = live.filter fun pod => pod.name ∉ r.plan.removals.map Removal.name := by
      rw [← (hr.asks hservices).1]
    rw [hdeleted]
    exact spared_of_running hnames hr.planned_length hmade hrunning

/-- The status that a pass computes once all its pods have been asked for tells the truth: its phase says
how many live pods there were, whether they were of the present revision and whether the new ones have
been created, it is ready only if it runs and all its pods are, and its counts are those of the pods that
stay and of the new ones, which are never more than declared. A pass computes none only if it waits for a
reply, or looks for names without end. -/
theorem status_truthful (h : Runs id fuel (start id spec) m (a :: b :: c :: answers) stage m')
    (hlisted : c.reply = .ok listed) (hnames : (listed.map Pod.name).Nodup) :
    (stage.hasCreated = true → Reports m b.desk.spec listed (a :: b :: c :: answers)
        (asked id (a :: b :: c :: answers) stage)) ∧
      (stage.request? id = none → stage = .finished ∨ stage = .naming) := by
  refine ⟨fun hstage => ?_, (runs_reached h hlisted).stops⟩
  cases stage with
  | finished =>
    rw [Outset.asked_of_none rfl]
    exact finished_reports h hlisted hnames
  | publishing s =>
    -- The request is on its way: any reply to it ends the pass.
    let d : Desk := { spec := b.desk.spec, memory := m', draws := ⟨fun _ => 0, 0⟩, now := ⟨0, 0⟩ }
    let x : Answered := ⟨.patchStatus id.name s, .ok [], d⟩
    have hover : Runs id fuel (start id spec) m (a :: b :: c :: (answers ++ [x])) .finished
        { m' with status := some s } := h.snoc rfl rfl
    have hreports := finished_reports hover hlisted hnames
    have hrequests : (a :: b :: c :: (answers ++ [x])).map (·.request) =
        asked id (a :: b :: c :: answers) (.publishing s) := by
      rw [asked, ← List.cons_append, ← List.cons_append, ← List.cons_append, List.map_append]
      rfl
    rw [hrequests] at hreports
    exact Reports.of_snoc rfl hreports
  | _ => cases hstage

def renewal (creation : Reply) : List Answered × Stage × Memory :=
  replay demo 9 {} ([.ok [], .ok [], .ok [unmarked], .ok [], .ok [], creation, .ok []].map
    fun reply => (reply, ⟨20, 0⟩)) (start demo {}) {}

/-- The cluster is upgrading if the new pod has been created, and else there are too few pods. -/
theorem status_truthful_renewal :
    let reported (pass : List Answered × Stage × Memory) :=
      ((asked demo pass.1 pass.2.1).filterMap Request.publishes?).map fun s => (s.phase, s.size)
    Reports {} {} [unmarked] (renewal (.ok [])).1
        (asked demo (renewal (.ok [])).1 (renewal (.ok [])).2.1) ∧
      reported (renewal (.ok [])) = [(.upgrading, 1)] ∧
      Reports {} {} [unmarked] (renewal (.error .shutdown)).1
        (asked demo (renewal (.error .shutdown)).1 (renewal (.error .shutdown)).2.1) ∧
      reported (renewal (.error .shutdown)) = [(.scaling, 0)] := by
  intro reported
  have hruns (creation : Reply) : Runs demo 9 (start demo {}) {} (renewal creation).1
      (renewal creation).2.1 (renewal creation).2.2 := replay_runs ..
  have hnames : ([unmarked].map Pod.name).Nodup := List.nodup_singleton _
  refine ⟨?_, by decide +kernel, ?_, by decide +kernel⟩
  · exact (status_truthful (hruns (.ok [])) rfl hnames).1 (by decide +kernel)
  · exact (status_truthful (hruns (.error .shutdown)) rfl hnames).1 (by decide +kernel)

end Pass

end NatsFleet
