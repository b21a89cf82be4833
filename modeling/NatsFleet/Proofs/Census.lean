import NatsFleet.Proofs.Availability
import NatsFleet.Proofs.Belonging

/-!
The census of a pass. Each listed pod is on its way out, removed or kept; as many names are planned as
there are pods missing, all of them fresh; and the records afterwards are those of the kept pods and of
the ones that have been created, whatever fails in between.
-/
namespace NatsFleet

/-- Planned names are different from each other and from those in use. -/
theorem Naming.plan_fresh {cluster : String} {fuel : Nat} {taken : List String} {count : Nat}
    {d d' : Draws} {names : List String} (h : plan cluster fuel taken count d = some (names, d')) :
    names.Nodup ∧ ∀ name ∈ names, name ∉ taken := by
  -- Each attempt finds one of the names or takes a name that is in use.
  fun_induction plan cluster fuel taken count d generalizing names d' with
  | case1 =>
    obtain ⟨rfl, -⟩ := Prod.mk.inj (Option.some.inj h)
    exact ⟨List.nodup_nil, fun name hname => absurd hname List.not_mem_nil⟩
  | case2 => cases h
  | case3 fuel taken count d name d'' hname htaken ih => exact ih h
  | case4 fuel taken count d name d'' hname htaken ih =>
    simp only [Option.bind_eq_bind, Option.bind_eq_some_iff, Prod.exists, Option.some.injEq,
      Prod.mk.injEq] at h
    obtain ⟨more, d''', hmore, rfl, -⟩ := h
    obtain ⟨hnodup, hfresh⟩ := ih hmore
    refine ⟨List.nodup_cons.mpr ⟨fun hin => hfresh name hin List.mem_cons_self, hnodup⟩, ?_⟩
    intro other hother
    rcases List.mem_cons.mp hother with rfl | hother
    · exact htaken
    · exact fun hin => hfresh other hother (List.mem_cons_of_mem _ hin)

namespace Pass

def Sorted (records : List PodRecord) : Prop := records.Pairwise fun r s => r.name < s.name

def gathered (records : List PodRecord) : List PodRecord :=
  records.foldl (fun gathered r => putRecord r gathered) []

theorem mem_putRecord {r s : PodRecord} {records : List PodRecord} (h : s ∈ putRecord r records) :
    s = r ∨ s ∈ records := by
  induction records with
  | nil => exact .inl (List.mem_singleton.mp h)
  | cons t rest ih =>
    unfold putRecord at h
    split at h
    · exact List.mem_cons.mp h
    · split at h
      · rcases List.mem_cons.mp h with rfl | h
        · exact .inl rfl
        · exact .inr (List.mem_cons_of_mem t h)
      · rcases List.mem_cons.mp h with rfl | h
        · exact .inr List.mem_cons_self
        · exact (ih h).imp_right (List.mem_cons_of_mem t)

/-- Records stay in the order of their names. -/
theorem putRecord_sorted (r : PodRecord) {records : List PodRecord} (h : Sorted records) :
    Sorted (putRecord r records) := by
  induction records with
  | nil => exact List.pairwise_singleton _ r
  | cons s rest ih =>
    obtain ⟨hs, hrest⟩ := List.pairwise_cons.mp h
    unfold putRecord
    split
    · rename_i hlt
      refine List.pairwise_cons.mpr ⟨fun t ht => ?_, h⟩
      rcases List.mem_cons.mp ht with rfl | ht
      · exact hlt
      · exact String.lt_trans hlt (hs t ht)
    · rename_i hnlt
      split
      · rename_i heq
        exact List.pairwise_cons.mpr ⟨fun t ht => heq ▸ hs t ht, hrest⟩
      · rename_i hne
        have hlt : s.name < r.name := by
          by_contra hnlt'
          exact hne (String.le_antisymm (String.not_lt.mp hnlt') (String.not_lt.mp hnlt))
        refine List.pairwise_cons.mpr ⟨fun t ht => ?_, ih hrest⟩
        rcases mem_putRecord ht with rfl | ht
        · exact hlt
        · exact hs t ht

/-- A record of a new name is added. -/
theorem putRecord_perm {r : PodRecord} {records : List PodRecord}
    (h : r.name ∉ records.map PodRecord.name) : (putRecord r records).Perm (r :: records) := by
  induction records with
  | nil => exact .refl _
  | cons s rest ih =>
    rw [List.map_cons, List.mem_cons, not_or] at h
    unfold putRecord
    rw [if_neg h.1]
    split
    · exact .refl _
    · exact ((ih h.2).cons s).trans (List.Perm.swap r s rest)

/-- Records of distinct names, put one after the other, are those records in the order of their names. -/
theorem gathered_spec {records : List PodRecord} (h : (records.map PodRecord.name).Nodup) :
    Sorted (gathered records) ∧ (gathered records).Perm records := by
  induction records using List.reverseRecOn with
  | nil => exact ⟨List.Pairwise.nil, .refl _⟩
  | append_singleton records r ih =>
    rw [List.map_append, List.map_singleton] at h
    obtain ⟨hrecords, -, hdisjoint⟩ := List.nodup_append.mp h
    obtain ⟨hsorted, hperm⟩ := ih hrecords
    have hnew : r.name ∉ (gathered records).map PodRecord.name := fun hin =>
      hdisjoint _ ((hperm.map _).mem_iff.mp hin) _ (List.mem_singleton.mpr rfl) rfl
    have hput : gathered (records ++ [r]) = putRecord r (gathered records) := List.foldl_concat ..
    rw [hput]
    refine ⟨putRecord_sorted r hsorted, ?_⟩
    calc List.Perm (putRecord r (gathered records)) (r :: gathered records) := putRecord_perm hnew
      List.Perm _ (r :: records) := hperm.cons r
      List.Perm _ (records ++ [r]) := (List.perm_append_singleton r records).symm

variable {id : Identity} {fuel : Nat} {spec : ClusterSpec} {m m' : Memory} {a b c : Answered}
  {answers : List Answered} {stage : Stage} {listed removed kept : List Pod} {planned : List String}
  {o : Outset} {w : Work}

/-- Only pods that were asked for are created. -/
theorem created_sublist (answers : List Answered) : (answers.filterMap Answered.created?).Sublist
    (((answers.map (·.request)).filterMap Request.creates?).map Pod.name) := by
  induction answers with
  | nil => exact .slnil
  | cons a rest ih =>
    rw [List.map_cons]
    cases hcreated : a.created? with
    | none =>
      rw [List.filterMap_cons_none hcreated]
      exact ih.trans (((List.sublist_cons_self _ _).filterMap _).map _)
    | some name =>
      have hasks : ∃ pod, a.request.creates? = some pod ∧ pod.name = name := by
        unfold Answered.created? at hcreated
        split at hcreated
        · rename_i pod listed hrequest hreply
          exact ⟨pod, by rw [hrequest]; rfl, Option.some.inj hcreated⟩
        · cases hcreated
      obtain ⟨pod, hpod, rfl⟩ := hasks
      rw [List.filterMap_cons_some hcreated, List.filterMap_cons_some hpod]
      exact ih.cons_cons _

/-- The records are those of the kept pods, with one more for each pod that has been created. -/
theorem Outset.records_eq (o : Outset) (answers : List Answered) :
    o.records answers = gathered (o.plan.kept.map (·.record) ++
      (answers.filterMap Answered.created?).map (newRecord o.id)) := by
  rw [records, recordsAfter, keptRecords, gathered, List.foldl_append, List.foldl_map, List.foldl_map]

/-- Each listed pod is on its way out, removed or kept, and it is one of these only. The ones that have
finished are removed, unless they are on their way out; the kept ones are in the order of their creation,
and not more than declared. -/
structure Census (spec : ClusterSpec) (listed removed kept : List Pod) : Prop where
  all : (listed.filter Pod.isDeleting ++ (removed ++ kept)).Perm listed
  finished : ∀ pod ∈ listed, pod.isDeleting = false → pod.isFinished = true → pod ∈ removed
  ordered : kept.Pairwise Pod.Precedes
  size : kept.length ≤ spec.size.toNat

/-- Elements that are told apart by what they are mapped to are the same if their images are. -/
theorem perm_of_map_perm {α β : Type} {f : α → β} {l s t : List α} (hl : (l.map f).Nodup) (hs : s ⊆ l)
    (ht : t ⊆ l) (hnodup : (t.map f).Nodup) (h : (s.map f).Perm (t.map f)) : s.Perm t := by
  refine (List.perm_ext_iff_of_nodup (h.nodup_iff.mpr hnodup).of_map hnodup.of_map).mpr fun x => ?_
  have hmem {u v : List α} (hu : u ⊆ l) (hv : v ⊆ l) (huv : (u.map f).Perm (v.map f)) (hx : x ∈ u) :
      x ∈ v := by
    obtain ⟨y, hy, hyx⟩ := List.mem_map.mp (huv.mem_iff.mp (List.mem_map_of_mem hx))
    exact List.inj_on_of_nodup_map hl (hv hy) (hu hx) hyx ▸ hy
  exact ⟨hmem hs ht h, hmem ht hs h.symm⟩

theorem exists_map_eq {α β : Type} {f : α → β} {l : List α} {s : List β}
    (h : ∀ y ∈ s, ∃ x ∈ l, f x = y) : ∃ t ⊆ l, t.map f = s := by
  induction s with
  | nil => exact ⟨[], List.nil_subset l, rfl⟩
  | cons y s ih =>
    obtain ⟨⟨x, hx, rfl⟩, hs⟩ := List.forall_mem_cons.mp h
    obtain ⟨t, ht, rfl⟩ := ih hs
    exact ⟨x :: t, List.cons_subset.mpr ⟨hx, ht⟩, rfl⟩

/-- Each listed pod is accounted for, and the removals of the plan are the ones that are counted as
removed. -/
theorem exists_census (id : Identity) (spec : ClusterSpec) (hnames : (listed.map Pod.name).Nodup) :
    ∃ removed kept, Census spec listed removed kept ∧
      removed.map Pod.name = (Plan.ofListing id spec listed).removals.map Removal.name ∧
      kept.map (LivePod.ofPod id) = (Plan.ofListing id spec listed).kept := by
  have hall := Plan.removals_append_kept_names id spec listed
  have hpresent : Plan.present listed ⊆ listed := List.filter_subset_self _
  have hpresentNames : ((Plan.present listed).map Pod.name).Nodup :=
    hnames.sublist (List.filter_sublist.map _)
  have hsublist := Plan.kept_sublist id spec listed
  obtain ⟨removed, hremoved, hremovedNames⟩ :
      ∃ t ⊆ Plan.present listed, t.map Pod.name =
        (Plan.ofListing id spec listed).removals.map Removal.name := by
    refine exists_map_eq fun name hname => ?_
    exact List.mem_map.mp (hall.mem_iff.mp (List.mem_append_left _ hname))
  obtain ⟨kept, hkept, hkeptLive⟩ : ∃ t ⊆ Plan.present listed,
      t.map (LivePod.ofPod id) = (Plan.ofListing id spec listed).kept := by
    refine exists_map_eq fun q hq => ?_
    obtain ⟨pod, hpod, -, hlive⟩ := Plan.mem_live.mp (hsublist.subset hq)
    exact ⟨pod, hpod, hlive⟩
  have hkeptNames : kept.map Pod.name = (Plan.ofListing id spec listed).keptNames := by
    rw [Plan.keptNames, ← hkeptLive, List.map_map]
    rfl
  -- Names are distinct, so the pods are divided as their names are.
  have hperm : (removed ++ kept).Perm (Plan.present listed) := by
    refine perm_of_map_perm hnames (List.append_subset.mpr ⟨fun pod h => hpresent (hremoved h),
      fun pod h => hpresent (hkept h)⟩) hpresent hpresentNames ?_
    rw [List.map_append, hremovedNames, hkeptNames]
    exact hall
  refine ⟨removed, kept, ⟨?_, ?_, ?_, ?_⟩, hremovedNames, hkeptLive⟩
  · exact (hperm.append_left _).trans (List.filter_append_perm Pod.isDeleting listed)
  · intro pod hpod hstays hfinished
    have hmem : pod ∈ removed ++ kept :=
      hperm.mem_iff.mpr (List.mem_filter.mpr ⟨hpod, by rw [hstays]; rfl⟩)
    refine (List.mem_append.mp hmem).resolve_right fun hin => ?_
    -- A kept pod is live.
    have hlive := hsublist.subset (hkeptLive ▸ List.mem_map_of_mem hin)
    obtain ⟨other, -, hother, hsame⟩ := Plan.mem_live.mp hlive
    have hphase : PodPhase.ofPod other = PodPhase.ofPod pod :=
      congrArg (fun q => q.record.phase) hsame
    rw [Pod.isFinished, hphase, ← Pod.isFinished, hfinished] at hother
    cases hother
  · have hsorted := (Plan.live_pairwise id listed).sublist hsublist
    have hdistinct := (List.nodup_append.mp (Plan.removals_append_kept_nodup id spec hnames)).2.1
    rw [← hkeptLive, List.pairwise_map] at hsorted
    rw [← hkeptNames] at hdistinct
    exact (hsorted.and (List.pairwise_map.mp hdistinct)).imp fun h => Pod.precedes_of_le h.1 h.2
  · have hlength := Plan.kept_length_le id spec listed
    rwa [← hkeptLive, List.length_map] at hlength

def configOf (id : Identity) (spec : ClusterSpec) (names : List String) : ServerConfig :=
  .forCluster spec (names.map fun name => Manifest.routeAddress name id.name id.namespaceName)

/-- What a pass asks for once it has planned names for the pods that are missing: these make up the
declared size, they are fresh, and the routes are the kept pods followed by the new ones. -/
structure Fills (id : Identity) (spec : ClusterSpec) (m : Memory) (kept : List Pod)
    (planned : List String) (stage : Stage) (requests : List Request) : Prop where
  size : kept.length + planned.length = spec.size.toNat
  fresh : (kept.map Pod.name ++ planned).Nodup
  written : requests.filterMap Request.writes? =
    if m.config = some (configOf id spec (kept.map Pod.name ++ planned)).render then []
    else [Manifest.configMap id spec (configOf id spec (kept.map Pod.name ++ planned))]
  created : requests.filterMap Request.creates? <+: planned.map (Manifest.pod id spec)
  whole : stage.hasCreated = true →
    requests.filterMap Request.creates? = planned.map (Manifest.pod id spec)

def Records (id : Identity) (kept : List Pod) (answers : List Answered) (records : List PodRecord) :
    Prop :=
  Sorted records ∧ records.Perm (kept.map (fun pod => (LivePod.ofPod id pod).record) ++
    (answers.filterMap Answered.created?).map (newRecord id))

/-- Planned names fill up the kept pods to the declared size, and are fresh. -/
theorem Outset.Names.fills (hw : o.Names fuel w) (hnames : (o.listed.map Pod.name).Nodup)
    (hkept : kept.map (LivePod.ofPod o.id) = o.plan.kept) :
    kept.length + w.planned.length = o.spec.size.toNat ∧ (kept.map Pod.name ++ w.planned).Nodup ∧
      config o.id w = configOf o.id o.spec (kept.map Pod.name ++ w.planned) := by
  obtain ⟨draws, draws', hplanned⟩ := hw.planned
  have hkeptNames : kept.map Pod.name = o.plan.keptNames := by
    rw [Plan.keptNames, ← hkept, List.map_map]
    rfl
  obtain ⟨hnodup, hfresh⟩ := Naming.plan_fresh hplanned
  have hlength : w.planned.length = o.plan.shortfall o.spec := Naming.plan_length _ _ _ _ _ _ _ hplanned
  rw [← List.length_map Pod.name, hkeptNames]
  refine ⟨?_, ?_, ?_⟩
  · rw [hlength]
    exact Plan.kept_add_shortfall o.id o.spec o.listed
  · have hkeptNodup : o.plan.keptNames.Nodup :=
      (List.nodup_append.mp (Plan.removals_append_kept_nodup o.id o.spec hnames)).2.1
    have hdisjoint : ∀ name ∈ o.plan.keptNames, ∀ other ∈ w.planned, name ≠ other := by
      rintro name hname other hother rfl
      exact hfresh name hother hname
    exact List.nodup_append.mpr ⟨hkeptNodup, hnodup, hdisjoint⟩
  · rw [config, hw.spec, hw.plan]
    exact congrArg (ServerConfig.forCluster o.spec) (Plan.routes_eq o.id o.spec o.listed w.planned)

/-- The records that a pass gathers are those of the kept pods and of the ones it has created. -/
theorem Outset.records_spec (hnames : (kept.map Pod.name ++ planned).Nodup)
    (hkept : kept.map (LivePod.ofPod o.id) = o.plan.kept)
    (hcreated : (answers.map (·.request)).filterMap Request.creates? <+: o.created planned) :
    Records o.id kept answers (o.records answers) := by
  have hkeptRecords : o.plan.kept.map (·.record) =
      kept.map fun pod => (LivePod.ofPod o.id pod).record := by
    rw [← hkept, List.map_map]
    rfl
  have hsublist : (answers.filterMap Answered.created?).Sublist planned := by
    have hplanned : (o.created planned).map Pod.name = planned := by
      rw [created, List.map_map]
      exact List.map_id _
    have hasked := (created_sublist answers).trans (hcreated.sublist.map Pod.name)
    rwa [hplanned] at hasked
  have hdistinct : ((o.plan.kept.map (·.record) ++
      (answers.filterMap Answered.created?).map (newRecord o.id)).map PodRecord.name).Nodup := by
    rw [hkeptRecords, List.map_append, List.map_map, List.map_map]
    refine hnames.sublist (List.Sublist.append (.refl _) ?_)
    exact (List.map_id _).symm ▸ hsublist
  obtain ⟨hsorted, hperm⟩ := gathered_spec hdistinct
  rw [Records, o.records_eq, ← hkeptRecords]
  exact ⟨hsorted, hperm⟩

/-- Once a pass has planned names, it asks for what fills up the kept pods, and in the end its records
are those of the kept pods and of the ones that have been created. -/
theorem Outset.Stands.fills (h : o.Stands fuel answers stage m')
    (hstage : stage.hasNames = true) (hnames : (o.listed.map Pod.name).Nodup)
    (hkept : kept.map (LivePod.ofPod o.id) = o.plan.kept) :
    ∃ planned, Fills o.id o.spec o.memory kept planned stage (asked o.id answers stage) ∧
      (stage.hasCreated = false → m'.pods = o.memory.pods) ∧
      (stage.hasCreated = true → Records o.id kept answers m'.pods) := by
  obtain ⟨w, hw, hwritten, hcreated, hwhole, hpods⟩ := h.named hstage
  obtain ⟨hsize, hfresh, hconfig⟩ := hw.fills hnames hkept
  rw [written, hconfig] at hwritten
  refine ⟨w.planned, ⟨hsize, hfresh, hwritten, hcreated, hwhole⟩, fun hover => ?_, fun hover => ?_⟩
  · rwa [hover, if_neg Bool.false_ne_true] at hpods
  · rw [hover, if_pos rfl] at hpods
    have hbegins := (prefix_asked o.id answers stage).filterMap Request.creates?
    rw [hwhole hover] at hbegins
    exact hpods ▸ records_spec hfresh hkept hbegins

/-- Before names are planned, a pass has asked for nothing else, and forgets nothing. -/
theorem Outset.Stands.unnamed (h : o.Stands fuel answers stage m') (hstage : stage.hasNames = false) :
    (asked o.id answers stage).filterMap Request.writes? = [] ∧
      (asked o.id answers stage).filterMap Request.creates? = [] ∧ m' = o.memory := by
  cases h with
  | removing hstage' hasks hdeleted => exact ⟨hasks.written, hasks.created, rfl⟩
  | naming hstage' hasks => exact ⟨hasks.written, hasks.created, rfl⟩
  | creating w hw hstage' hasks hcreated hpods =>
    rw [hstage'.1] at hstage
    cases hstage
  | created w hw hstage' hasks hpods =>
    rw [hstage'.1] at hstage
    cases hstage

/-- Every listed pod is accounted for, whatever comes back. If the listing fails, nothing else is asked
for and nothing is forgotten. Else each listed pod of distinct names is on its way out, removed or kept.
Those that are removed are asked to be deleted once each, the others never; as many pods are asked for as
are missing; and the records are in the end those of the kept pods and of the ones that have been
created. A pass asks for less only if it waits for a reply, or looks for names without end. -/
theorem pods_accounted (h : Runs id fuel (start id spec) m (a :: b :: c :: answers) stage m') :
    (∀ e, c.reply = .error e → answers = [] ∧ stage = .finished ∧ m' = m) ∧
      ∀ listed, c.reply = .ok listed → (listed.map Pod.name).Nodup →
        let all := a :: b :: c :: answers
        let deleted := (asked id all stage).filterMap Request.deletes?
        ∃ removed kept, Census b.desk.spec listed removed kept ∧
          deleted <+: removed.map Pod.name ∧
          (stage.isRemoving = false → deleted = removed.map Pod.name) ∧
          (stage.hasNames = false → (asked id all stage).filterMap Request.writes? = [] ∧
            (asked id all stage).filterMap Request.creates? = [] ∧ m' = m) ∧
          (stage.hasNames = true → ∃ planned,
            Fills id b.desk.spec m kept planned stage (asked id all stage) ∧
            (stage.hasCreated = false → m'.pods = m.pods) ∧
            (stage.hasCreated = true → Records id kept all m'.pods)) ∧
          (stage.request? id = none → stage = .finished ∨ stage = .naming) := by
  refine ⟨fun e hfailed => runs_unlisted h hfailed, fun listed hlisted hnames => ?_⟩
  intro all deleted
  have hreached := runs_reached h hlisted
  have hstands := hreached.stands
  obtain ⟨removed, kept, hcensus, hremoved, hkept⟩ := exists_census id b.desk.spec hnames
  refine ⟨removed, kept, hcensus, ?_, ?_, hstands.unnamed, fun hstage => ?_, hreached.stops⟩
  · rw [hremoved]
    exact hstands.deleted.1
  · rw [hremoved]
    exact hstands.deleted.2
  · exact hstands.fills hstage hnames hkept

def refill : List Answered × Stage × Memory :=
  replay demo 9 { size := 3 } ([.ok [], .ok [], .ok [failed, leaving, unmarked], .error .shutdown, .ok [],
    .ok [], .error .shutdown, .ok []].map fun reply => (reply, ⟨20, 0⟩)) (start demo { size := 3 }) {}

def blind : List Answered × Stage × Memory :=
  replay demo 9 {} ([.ok [], .ok [], .error .shutdown].map fun reply => (reply, ⟨20, 0⟩))
    (start demo {}) {}

/-- The failed pod is removed, the outdated one stays while others are missing, and of two new ones one is
created. The other pass is over when its listing is refused. -/
theorem pods_accounted_refill :
    (blind.2.1 = .finished ∧ blind.2.2 = {}) ∧ ∃ removed kept planned,
      Census { size := 3 } [failed, leaving, unmarked] removed kept ∧
        removed.map Pod.name = ["demo-lost"] ∧
        Fills demo { size := 3 } {} kept planned refill.2.1 (asked demo refill.1 refill.2.1) ∧
        Records demo kept refill.1 refill.2.2.pods ∧
        refill.2.2.pods.map (·.name) = ["demo-bcdfg", "demo-old"] := by
  have hblind : Runs demo 9 (start demo {}) {} blind.1 blind.2.1 blind.2.2 := replay_runs ..
  have hruns : Runs demo 9 (start demo { size := 3 }) {} refill.1 refill.2.1 refill.2.2 :=
    replay_runs ..
  have hnames : ([failed, leaving, unmarked].map Pod.name).Nodup := by decide +kernel
  have hasked : (asked demo refill.1 refill.2.1).filterMap Request.deletes? = ["demo-lost"] := by
    decide +kernel
  refine ⟨((pods_accounted hblind).1 .shutdown rfl).2, ?_⟩
  obtain ⟨removed, kept, hcensus, -, hwhole, -, hnamed, -⟩ :=
    (pods_accounted hruns).2 [failed, leaving, unmarked] rfl hnames
  obtain ⟨planned, hfills, -, hrecords⟩ := hnamed (by decide +kernel)
  have hremoved : ["demo-lost"] = removed.map Pod.name := hasked.symm.trans (hwhole (by decide +kernel))
  exact ⟨removed, kept, planned, hcensus, hremoved.symm, hfills, hrecords (by decide +kernel),
    by decide +kernel⟩

end Pass

end NatsFleet
