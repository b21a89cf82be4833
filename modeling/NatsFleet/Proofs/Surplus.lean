import NatsFleet.Proofs.Census

/-!
What a pass does when there are more live pods than declared. Those that were created first stay, and
they alone are in the configuration; the others go, the newest first, whatever comes of it.
-/
namespace NatsFleet

namespace Pod

def isOver (pod : Pod) : Bool := !pod.isDeleting && pod.isFinished

end Pod

namespace Plan

variable {id : Identity} {spec : ClusterSpec} {listed : List Pod}

/-- Pods that are over are terminated. -/
theorem terminated_names (listed : List Pod) :
    (terminated listed).map Removal.name = (listed.filter Pod.isOver).map Pod.name := by
  have hover : listed.filter Pod.isOver =
      (present listed).filter fun p => (PodPhase.ofPod p).isTerminated := by
    rw [present, List.filter_filter]
    apply List.filter_congr
    intro p _
    exact Bool.and_comm _ _
  rw [terminated, List.map_map, hover]
  rfl

/-- The live pods, each one before those that it precedes. -/
theorem exists_ordered (id : Identity) (hnames : (listed.map Pod.name).Nodup) :
    ∃ pods : List Pod, pods.Perm (listed.filter Pod.isLive) ∧
      pods.map (LivePod.ofPod id) = live id listed ∧
      pods.Pairwise Pod.Precedes := by
  let pods := (listed.filter Pod.isLive).mergeSort fun p q =>
    (LivePod.ofPod id p).le (LivePod.ofPod id q)
  have hperm : pods.Perm (listed.filter Pod.isLive) := List.mergeSort_perm _ _
  have hfound : found id listed = (listed.filter Pod.isLive).map (LivePod.ofPod id) := by
    rw [found, present, List.filter_filter]
    congr 1
    apply List.filter_congr
    intro p _
    exact Bool.and_comm _ _
  have hlive : pods.map (LivePod.ofPod id) = live id listed := by
    calc pods.map (LivePod.ofPod id)
      _ = ((listed.filter Pod.isLive).map (LivePod.ofPod id)).mergeSort LivePod.le :=
        List.map_mergeSort fun _ _ _ _ => rfl
      _ = (found id listed).mergeSort LivePod.le := by rw [hfound]
      _ = live id listed := rfl
  have hsorted : pods.Pairwise fun p q => (LivePod.ofPod id p).le (LivePod.ofPod id q) = true := by
    have hpairwise := live_pairwise id listed
    rwa [← hlive, List.pairwise_map] at hpairwise
  have hdistinct : pods.Pairwise fun p q => p.name ≠ q.name := by
    have hnodup : (pods.map Pod.name).Nodup :=
      (hperm.map _).nodup_iff.mpr (hnames.sublist (List.filter_sublist.map _))
    exact List.pairwise_map.mp hnodup
  refine ⟨pods, hperm, hlive, ?_⟩
  exact (hsorted.and hdistinct).imp fun h => Pod.precedes_of_le h.1 h.2

/-- Of some live pods those that stay and those that go, in their order: as many as declared stay, and
each of them precedes each one that goes. -/
structure Divided (spec : ClusterSpec) (live stay go : List Pod) : Prop where
  all : (stay ++ go).Perm live
  ordered : (stay ++ go).Pairwise Pod.Precedes
  size : stay.length = spec.size.toNat

/-- The plan for too many live pods removes the newest ones, the newest first. -/
theorem exists_divided (id : Identity) (hnames : (listed.map Pod.name).Nodup)
    (hmany : spec.size.toNat < (listed.filter Pod.isLive).length) :
    ∃ stay go, Divided spec (listed.filter Pod.isLive) stay go ∧
      (ofListing id spec listed).kept = stay.map (LivePod.ofPod id) ∧
      (ofListing id spec listed).removals.map Removal.name =
        (listed.filter Pod.isOver).map Pod.name ++ (go.map Pod.name).reverse := by
  obtain ⟨pods, hperm, hlive, hordered⟩ := exists_ordered id hnames
  have hsize : spec.size.toNat < pods.length := by
    have hlength := hperm.length_eq
    omega
  have hplan : ofListing id spec listed =
      { removals := terminated listed ++
          ((live id listed).drop spec.size.toNat).reverse.map (removal .surplus)
        kept := (live id listed).take spec.size.toNat
        observed := (live id listed).length
        replaced := false } := by
    unfold ofListing
    dsimp only
    rw [if_pos (by rwa [← hlive, List.length_map])]
  refine ⟨pods.take spec.size.toNat, pods.drop spec.size.toNat, ⟨?_, ?_, ?_⟩, ?_, ?_⟩
  · rwa [List.take_append_drop]
  · rwa [List.take_append_drop]
  · rw [List.length_take]
    omega
  · rw [hplan, List.map_take, hlive]
  · rw [hplan, List.map_append, terminated_names, ← hlive, ← List.map_drop, ← List.map_reverse,
      ← List.map_reverse, List.map_map, List.map_map]
    rfl

end Plan

namespace Pass

variable {id : Identity} {fuel : Nat} {spec : ClusterSpec} {m m' : Memory} {a b c : Answered}
  {answers : List Answered} {stage : Stage} {listed : List Pod}

/-- A pass that removes has no names yet. -/
theorem Stage.hasNames_of_isRemoving (h : stage.isRemoving = true) : stage.hasNames = false := by
  cases stage with
  | removing spec plan todo => rfl
  | _ => cases h

/-- One that has created had its names before. -/
theorem Stage.hasNames_of_hasCreated (h : stage.hasCreated = true) : stage.hasNames = true := by
  cases stage with
  | publishing s => rfl
  | finished => rfl
  | _ => cases h

/-- A pass that need not create any pod does not look for names. -/
theorem hasNames_of_shortfall (h : Runs id fuel (start id spec) m (a :: b :: c :: answers) stage m')
    (hlisted : c.reply = .ok listed) (hpast : stage.isRemoving = false)
    (hnone : (Plan.ofListing id b.desk.spec listed).shortfall b.desk.spec = 0) :
    stage.hasNames = true := by
  obtain ⟨removed, rest, d, -, -, -, -, -, hname⟩ := runs_past h hlisted hpast
  rcases runs_name hname with ⟨hplan, -⟩ | ⟨planned, draws, -, hnames, -⟩
  · rw [hnone, Naming.plan_zero] at hplan
    cases hplan
  · exact hnames

/-- A pass that finds more live pods than declared asks to delete those that have finished and then the
newest ones, the newest first, so that as many as declared are left. These are the routes, in their
order, and all that is remembered; no pod is asked for; and none of this depends on what comes back. -/
theorem newest_removed (h : Runs id fuel (start id spec) m (a :: b :: c :: answers) stage m')
    (hlisted : c.reply = .ok listed) (hnames : (listed.map Pod.name).Nodup)
    (hmany : b.desk.spec.size.toNat < (listed.filter Pod.isLive).length) :
    let requests := asked id (a :: b :: c :: answers) stage
    ∃ stay go, Plan.Divided b.desk.spec (listed.filter Pod.isLive) stay go ∧
      let removed := (listed.filter Pod.isOver).map Pod.name ++ (go.map Pod.name).reverse
      let config := configOf id b.desk.spec (stay.map Pod.name)
      requests.filterMap Request.deletes? <+: removed ∧
      requests.filterMap Request.creates? = [] ∧
      (stage.isRemoving = true → requests.filterMap Request.writes? = []) ∧
      (stage.isRemoving = false → requests.filterMap Request.deletes? = removed ∧
        requests.filterMap Request.writes? = if m.config = some config.render then []
          else [Manifest.configMap id b.desk.spec config]) ∧
      (stage.hasCreated = true → Sorted m'.pods ∧
        m'.pods.Perm (stay.map fun pod => (LivePod.ofPod id pod).record)) ∧
      (stage.request? id = none → stage = .finished) := by
  intro requests
  obtain ⟨stay, go, hdivided, hkept, hremovals⟩ := Plan.exists_divided id hnames hmany
  have hreached := runs_reached h hlisted
  have hstands := hreached.stands
  obtain ⟨hbegins, hwhole⟩ := hstands.deleted
  rw [Outset.removed, Outset.plan, hremovals] at hbegins hwhole
  -- As many pods stay as are declared, so none is missing.
  have hshort : (Plan.ofListing id b.desk.spec listed).shortfall b.desk.spec = 0 := by
    rw [Plan.shortfall, hkept, List.length_map, hdivided.size, Nat.sub_self]
  have hpast (hstage : stage.isRemoving = false) : stage.hasNames = true :=
    hasNames_of_shortfall h hlisted hstage hshort
  have hfills (hstage : stage.hasNames = true) :
      ∃ planned, planned = [] ∧
        Fills id b.desk.spec m stay planned stage requests ∧
        (stage.hasCreated = true → Records id stay (a :: b :: c :: answers) m'.pods) := by
    obtain ⟨planned, hfills, -, hrecords⟩ := hstands.fills hstage hnames hkept.symm
    have hlength : stay.length + planned.length = b.desk.spec.size.toNat := hfills.size
    rw [hdivided.size] at hlength
    have hplanned : planned.length = 0 := by omega
    exact ⟨planned, List.length_eq_zero_iff.mp hplanned, hfills, hrecords⟩
  have hcreates : requests.filterMap Request.creates? = [] := by
    cases hstage : stage.hasNames with
    | false => exact (hstands.unnamed hstage).2.1
    | true =>
      obtain ⟨planned, rfl, hfills, -⟩ := hfills hstage
      exact List.prefix_nil.mp hfills.created
  refine ⟨stay, go, hdivided, hbegins, hcreates, ?_, ?_, ?_, ?_⟩
  · intro hstage
    exact (hstands.unnamed (Stage.hasNames_of_isRemoving hstage)).1
  · intro hstage
    obtain ⟨planned, rfl, hfills, -⟩ := hfills (hpast hstage)
    have hwritten := hfills.written
    rw [List.append_nil] at hwritten
    exact ⟨hwhole hstage, hwritten⟩
  · intro hstage
    obtain ⟨-, -, -, hrecords⟩ := hfills (Stage.hasNames_of_hasCreated hstage)
    obtain ⟨hsorted, hperm⟩ := hrecords hstage
    -- What has been created is among what was asked for.
    have hanswered := (Outset.prefix_asked id (a :: b :: c :: answers) stage).filterMap Request.creates?
    rw [hcreates, List.prefix_nil] at hanswered
    have hmade := created_sublist (a :: b :: c :: answers)
    rw [hanswered, List.map_nil, List.sublist_nil] at hmade
    rw [hmade, List.map_nil, List.append_nil] at hperm
    exact ⟨hsorted, hperm⟩
  · intro hrequest
    rcases hreached.stops hrequest with rfl | rfl
    · rfl
    · have hlooking : Stage.naming.hasNames = true := hpast rfl
      cases hlooking

/-- A pass of a controller that remembers nothing, after a listing for which this is the plan. -/
def replayPlan (id : Identity) (fuel : Nat) (spec : ClusterSpec) (listed : List Pod) (plan : Plan)
    (replies : List (Reply × Timestamp)) : List Answered × Stage × Memory :=
  let d : Desk := { spec := spec, draws := ⟨fun n => n, 0⟩, now := ⟨0, 0⟩ }
  let opening := (services id spec).map fun s => (⟨.createService s, .ok [], d⟩ : Answered)
  let listing : Answered := ⟨.listPods (Manifest.labelSelector id.name), .ok listed, d⟩
  let next := remove id fuel spec plan plan.removals d
  let rest := replay id fuel spec replies next.1 next.2.memory
  (opening ++ listing :: rest.1, rest.2)

theorem replayPlan_runs {plan : Plan} (h : Plan.ofListing id spec listed = plan)
    (replies : List (Reply × Timestamp)) : Runs id fuel (start id spec) {}
      (replayPlan id fuel spec listed plan replies).1 (replayPlan id fuel spec listed plan replies).2.1
      (replayPlan id fuel spec listed plan replies).2.2 := by
  refine .reply rfl rfl (.reply rfl rfl (.reply rfl rfl ?_))
  subst h
  exact replay_runs ..

def aged (name : String) (second : Option Int) : Pod :=
  { serving with
    metadata := { name := some name, creationTimestamp := second.map fun s => ⟨s, 0⟩ } }

def elders : List Pod := [aged "demo-c" none, aged "demo-a" (some 5), aged "demo-b" (some 5)]

def crowd : List Pod :=
  [failed, aged "demo-b" (some 5), leaving, aged "demo-c" none, aged "demo-a" (some 5)]

theorem crowd_plan : Plan.ofListing demo {} crowd =
    Plan.ofLive {} (Plan.terminated crowd) (elders.map (LivePod.ofPod demo)) := by
  have hnames : (Plan.namesOf (elders.map (LivePod.ofPod demo))).Nodup := by decide +kernel
  have hperm : (elders.map (LivePod.ofPod demo)).Perm (Plan.found demo crowd) := by decide +kernel
  have hsorted : (elders.map (LivePod.ofPod demo)).Pairwise fun p q => p.le q = true := by
    decide +kernel
  exact Plan.ofListing_of_sorted hnames hperm hsorted

def thinning : List Answered × Stage × Memory :=
  replayPlan demo 9 {} crowd
    (Plan.ofLive {} (Plan.terminated crowd) (elders.map (LivePod.ofPod demo)))
    ([.error .shutdown, .ok [], .error .shutdown, .ok [], .ok []].map fun reply => (reply, ⟨20, 0⟩))

/-- Of the two that were created in one second the one with the greater name goes first, and the one that
was created at an unknown moment stays. -/
theorem newest_removed_thinning : ∃ stay go,
    Plan.Divided {} (crowd.filter Pod.isLive) stay go ∧ stay.map Pod.name = ["demo-c"] ∧
      go.map Pod.name = ["demo-a", "demo-b"] ∧
      (asked demo thinning.1 thinning.2.1).filterMap Request.deletes? =
        ["demo-lost", "demo-b", "demo-a"] := by
  have hruns : Runs demo 9 (start demo {}) {} thinning.1 thinning.2.1 thinning.2.2 :=
    replayPlan_runs crowd_plan _
  have hnames : (crowd.map Pod.name).Nodup := by decide +kernel
  have hmany : ({} : ClusterSpec).size.toNat < (crowd.filter Pod.isLive).length := by decide +kernel
  have hasked : (asked demo thinning.1 thinning.2.1).filterMap Request.deletes? =
      ["demo-lost", "demo-b", "demo-a"] := by decide +kernel
  have hpods : thinning.2.2.pods.map (·.name) = ["demo-c"] := by decide +kernel
  have hover : (crowd.filter Pod.isOver).map Pod.name = ["demo-lost"] := by decide +kernel
  obtain ⟨stay, go, hdivided, -, -, -, hwhole, hrecords, -⟩ :=
    newest_removed hruns rfl hnames hmany
  have hremoved : ["demo-lost"] ++ ["demo-b", "demo-a"] =
      (crowd.filter Pod.isOver).map Pod.name ++ (go.map Pod.name).reverse :=
    hasked.symm.trans (hwhole (by decide +kernel)).1
  rw [hover, List.append_cancel_left_eq] at hremoved
  have hgo : go.map Pod.name = ["demo-a", "demo-b"] := List.reverse_eq_iff.mp hremoved.symm
  have hstay : (stay.map Pod.name).Perm ["demo-c"] := by
    have hperm := ((hrecords (by decide +kernel)).2.map (·.name)).symm
    rwa [hpods, List.map_map] at hperm
  exact ⟨stay, go, hdivided, List.perm_singleton.mp hstay, hgo, hasked⟩

end Pass

end NatsFleet
