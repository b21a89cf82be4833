import NatsFleet.Proofs.Report
import NatsFleet.Proofs.Surplus

/-!
The order in which the platform lists the pods does not matter. Two passes that list the same pods, draw
the same names and are answered alike do the same, but for the order in which they delete the pods that
have finished, which is the one of the listing.
-/
namespace NatsFleet

namespace Plan

variable {listed listed' : List Pod}

/-- Live pods of distinct names have one order only. -/
theorem live_congr (id : Identity) (hperm : listed.Perm listed')
    (hnames : (listed.map Pod.name).Nodup) : live id listed = live id listed' := by
  have hsame : (live id listed).Perm (live id listed') := by
    calc (live id listed).Perm ((listed.filter Pod.isLive).map (LivePod.ofPod id)) :=
        live_perm_filter id listed
      List.Perm _ ((listed'.filter Pod.isLive).map (LivePod.ofPod id)) := (hperm.filter _).map _
      List.Perm _ (live id listed') := (live_perm_filter id listed').symm
  exact live_eq_of_perm (live_names_nodup hnames) hsame (live_pairwise id listed)

/-- Plans for listings of the same pods share all but the removals of the pods that have finished. -/
theorem exists_shared (id : Identity) (spec : ClusterSpec) (hperm : listed.Perm listed')
    (hnames : (listed.map Pod.name).Nodup) : ∃ plan : Plan,
      ofListing id spec listed =
          { plan with removals := terminated listed ++ plan.removals } ∧
        ofListing id spec listed' =
          { plan with removals := terminated listed' ++ plan.removals } := by
  refine ⟨ofLive spec [] (live id listed), ofListing_eq id spec listed, ?_⟩
  rw [live_congr id hperm hnames]
  exact ofListing_eq id spec listed'

end Plan

namespace Condition

/-- An observation that takes the place of one of its type says what it says, times and messages apart. -/
theorem renewed_summary {old new : Condition} (h : old.type = new.type) :
    (old.renewed new).summary = new.summary := by
  unfold renewed
  split
  · rfl
  · rename_i hsame
    rw [summary, summary, h, not_not.mp hsame]

/-- What a list says with a new observation in it depends on what both say. -/
theorem set_summaries {new new' : Condition} (hnew : new.summary = new'.summary)
    {conditions conditions' : List Condition}
    (h : conditions.map summary = conditions'.map summary) :
    (new.set conditions).map summary = (new'.set conditions').map summary := by
  induction conditions generalizing conditions' with
  | nil =>
    obtain rfl := List.map_eq_nil_iff.mp h.symm
    exact congrArg (fun s => [s]) hnew
  | cons c rest ih =>
    -- Both lists have their observations of one type in the same place.
    obtain ⟨c', rest', rfl, hc, hrest⟩ := List.map_eq_cons_iff.mp h.symm
    have htype : c.type = c'.type := congrArg Prod.fst hc.symm
    have htype' : new.type = new'.type := congrArg Prod.fst hnew
    by_cases heq : c.type = new.type
    · have heq' : c'.type = new'.type := by rw [← htype, heq, htype']
      rw [set_cons_of_eq rest heq, set_cons_of_eq rest' heq', List.map_cons, List.map_cons,
        renewed_summary heq, renewed_summary heq', hnew, hrest]
    · have hne : c'.type ≠ new'.type := by rwa [← htype, ← htype']
      rw [set_cons_of_ne rest heq, set_cons_of_ne rest' hne, List.map_cons, List.map_cons, hc,
        ih hrest.symm]

/-- The test for equal conditions does not look at times and messages. -/
theorem same_congr {as bs bs' : List Condition} (h : bs.map summary = bs'.map summary) :
    same as bs = same as bs' := by
  have hsame (bs : List Condition) : same as bs = (as.length == (bs.map summary).length &&
      as.all fun a => (bs.map summary).any fun s => a.summary == s) := by
    have hagrees (a b : Condition) : agrees a b = (a.summary == b.summary) := by
      rw [Bool.eq_iff_iff, agrees_iff, beq_iff_eq]
    simp only [same, hagrees, List.length_map, List.any_map]
    rfl
  rw [hsame, hsame, h]

end Condition

namespace Pass

variable {id : Identity} {fuel : Nat} {spec : ClusterSpec} {m m' : Memory}
  {answers answers' : List Answered} {stage : Stage} {listed listed' : List Pod}

theorem unchanged_congr {s s' : ClusterStatus} (h : s.Agrees s') (published : Option ClusterStatus) :
    unchanged published s = unchanged published s' := by
  cases published with
  | none => rfl
  | some p => simp only [unchanged, h.phase, h.size, h.readySize, h.version,
      Condition.same_congr h.conditions]

/-- When a status is built does not matter to what it says. -/
theorem status_agrees (spec : ClusterSpec) (phase : Phase) (size ready : ℕ)
    (published : Option ClusterStatus) (now now' : Timestamp) :
    (status spec phase size ready published now).Agrees
      (status spec phase size ready published now') := by
  have hready : (readyCondition spec phase ready now).summary =
      (readyCondition spec phase ready now').summary := by
    simp only [readyCondition, Condition.build, Condition.summary]
  have hprogress : (progressCondition spec phase size now).summary =
      (progressCondition spec phase size now').summary := by
    simp only [progressCondition, Condition.build, Condition.summary]
  unfold status
  constructor
  case conditions => exact Condition.set_summaries hprogress (Condition.set_summaries hready rfl)
  all_goals dsimp only

def outcomes (μ : Method) (answers : List Answered) : List Bool :=
  (answers.filter fun a => a.request.method = μ).map Answered.isOk

/-- As far as two passes made requests of a kind, the same came of them: of the first ones, of the second
ones, and so on. -/
def AnsweredAlike (μ : Method) (answers answers' : List Answered) : Prop :=
  ∀ (k : ℕ) (x x' : Bool), (outcomes μ answers)[k]? = some x → (outcomes μ answers')[k]? = some x' → x = x'

/-- If two passes made equally many requests of a kind, all of them came out alike. -/
theorem AnsweredAlike.outcomes_eq {μ : Method} (h : AnsweredAlike μ answers answers')
    (hlength : (outcomes μ answers).length = (outcomes μ answers').length) :
    outcomes μ answers = outcomes μ answers' := by
  apply List.ext_getElem hlength
  intro k hk hk'
  exact h k _ _ (List.getElem?_eq_getElem hk) (List.getElem?_eq_getElem hk')

theorem filter_method (P : Method → Bool) {μ : Method} {requests : List Request}
    (h : answers.map (·.request) = requests) (hμ : ∀ q ∈ requests, q.method = μ) :
    answers.filter (fun a => P a.request.method) = if P μ then answers else [] := by
  have hmethod : ∀ a ∈ answers, a.request.method = μ := by
    intro a ha
    exact hμ _ (h ▸ List.mem_map_of_mem ha)
  split
  · rename_i hkept
    apply List.filter_eq_self.mpr
    intro a ha
    rw [hmethod a ha, hkept]
  · rename_i hdropped
    apply List.filter_eq_nil_iff.mpr
    intro a ha
    rw [hmethod a ha]
    exact hdropped

theorem method_removals (removals : List Removal) :
    ∀ q ∈ removals.map (fun r => Request.deletePod r.name), q.method = .deletePod := by
  intro q hq
  obtain ⟨r, -, rfl⟩ := List.mem_map.mp hq
  rfl

def Minutes.replies (r : Minutes id m spec) : List Answered :=
  r.removed ++ (r.written ++ (r.created ++ r.published))

theorem Minutes.eq_replies {r : Minutes id m spec} {c : Answered} (h : c :: answers = r.answered) :
    c = r.listing ∧ answers = r.replies := List.cons.inj h

namespace Minutes.Sound

variable {r : Minutes id m spec}

/-- The replies of a pass after its listing, by the kind of their requests. -/
theorem filter_answered (h : r.Sound fuel) (P : Method → Bool) :
    r.replies.filter (fun a => P a.request.method) =
      (if P .deletePod then r.removed else []) ++ ((if P .applyConfigMap then r.written else []) ++
        ((if P .createPod then r.created else []) ++ if P .patchStatus then r.published else [])) := by
  have hcreated : ∀ q ∈ r.planned.map (fun name => Request.createPod (Manifest.pod id spec name)),
      q.method = .createPod := by
    intro q hq
    obtain ⟨name, -, rfl⟩ := List.mem_map.mp hq
    rfl
  have hmaybe (p : Prop) [Decidable p] (request : Request) :
      ∀ q ∈ (if p then [] else [request]), q.method = request.method := by
    intro q hq
    split at hq
    · cases hq
    · rw [List.mem_singleton.mp hq]
  rw [replies, List.filter_append, List.filter_append, List.filter_append,
    filter_method P h.removed (method_removals _), filter_method P h.written (hmaybe _ _),
    filter_method P h.created hcreated, filter_method P h.published (hmaybe _ _)]
  rfl

/-- The deletions among the replies are the removals. -/
theorem filter_deletes (h : r.Sound fuel) :
    r.replies.filter (fun a => a.request.method = .deletePod) = r.removed :=
  (h.filter_answered fun μ => μ = .deletePod).trans (List.append_nil _)

/-- All but the publication has come back before the status is built. -/
theorem filter_moment (h : r.Sound fuel) :
    r.replies.filter (fun a => a.request.method ≠ .patchStatus) =
      r.removed ++ (r.written ++ r.created) := by
  refine (h.filter_answered fun μ => μ ≠ .patchStatus).trans ?_
  simp

theorem published_length (h : r.Sound fuel) :
    r.published.length = if unchanged m.status r.status then 0 else 1 := by
  rw [← List.length_map (·.request), h.published]
  split <;> rfl

theorem outcomes_written (h : r.Sound fuel) :
    outcomes .applyConfigMap r.replies = r.written.map Answered.isOk := by
  rw [outcomes, h.filter_answered fun μ => μ = .applyConfigMap]
  simp

theorem outcomes_created (h : r.Sound fuel) :
    outcomes .createPod r.replies = r.created.map Answered.isOk := by
  rw [outcomes, h.filter_answered fun μ => μ = .createPod]
  simp

theorem outcomes_published (h : r.Sound fuel) :
    outcomes .patchStatus r.replies = r.published.map Answered.isOk := by
  rw [outcomes, h.filter_answered fun μ => μ = .patchStatus]
  simp

end Minutes.Sound

/-- What has been created depends on what was asked for and on what came of it. -/
theorem filterMap_created?_congr (hrequests : answers.map (·.request) = answers'.map (·.request))
    (hoks : answers.map Answered.isOk = answers'.map Answered.isOk) :
    answers.filterMap Answered.created? = answers'.filterMap Answered.created? := by
  have hcreated (a : Answered) :
      a.created? = if a.isOk then a.request.creates?.map Pod.name else none := by
    unfold Answered.created? Answered.isOk
    cases a.request <;> cases a.reply <;> rfl
  induction answers generalizing answers' with
  | nil =>
    obtain rfl := List.map_eq_nil_iff.mp hrequests.symm
    rfl
  | cons a rest ih =>
    obtain ⟨a', rest', rfl, hrequest, hrest⟩ := List.map_eq_cons_iff.mp hrequests.symm
    obtain ⟨hok, hoks⟩ := List.cons.inj hoks
    have hsame : a.created? = a'.created? := by rw [hcreated, hcreated, hok, hrequest]
    rw [List.filterMap_cons, List.filterMap_cons, hsame, ih hrest.symm hoks]

variable {a b c a' b' c' : Answered} {m₁ m₂ : Memory} {stage' : Stage}

/-- Where a pass stops depends on whether there are names to be found for the missing pods. -/
theorem stops_eq (h : Runs id fuel (start id spec) m (a :: b :: c :: answers) stage m')
    (hlisted : c.reply = .ok listed) (hover : stage.request? id = none) :
    let plan := Plan.ofListing id b.desk.spec listed
    let draws := lastDraws c.desk.draws (answers.filter fun a => a.request.method = .deletePod)
    stage = if (Naming.plan id.name fuel plan.keptNames (plan.shortfall b.desk.spec) draws).isSome
      then .finished else .naming := by
  intro plan draws
  rcases (runs_reached h hlisted).stops hover with rfl | rfl
  · obtain ⟨-, r, hr, hanswers, -, rfl, draws', hplanned⟩ := minutes_of_start h hlisted
    obtain ⟨-, rfl⟩ := Minutes.eq_replies hanswers
    have hdraws : draws = lastDraws c.desk.draws r.removed := by rw [← hr.filter_deletes]
    have hsome : Naming.plan id.name fuel plan.keptNames (plan.shortfall b.desk.spec) draws =
        some (r.planned, draws') := hdraws ▸ hplanned
    rw [hsome]
    rfl
  · obtain ⟨removed, rest, d, rfl, hremoved, -, -, hdraws, hname⟩ := runs_past h hlisted rfl
    rcases runs_name hname with ⟨hnone, rfl, -, -⟩ | ⟨planned, draws', -, hnames, -⟩
    · -- All that came back after the listing are removals.
      have hremoved' :
          (removed ++ []).filter (fun a => a.request.method = Method.deletePod) = removed := by
        rw [List.append_nil]
        exact filter_method (fun μ => μ = .deletePod) hremoved (method_removals _)
      have hdraws' : draws = d.draws := by rw [hdraws, ← hremoved']
      rw [hdraws', hnone]
      rfl
    · cases hnames

/-- Two passes have done the same after two listings: they have deleted the same pods, the live ones in
the same order, have asked for the same pods and the same configuration, and remember the same of both. -/
structure Agree (listed listed' : List Pod) (answers answers' : List Answered) (m₁ m₂ : Memory) :
    Prop where
  deleted : (deletions answers).Perm (deletions answers')
  ordered : ∃ alive, deletions answers = (listed.filter Pod.isOver).map Pod.name ++ alive ∧
    deletions answers' = (listed'.filter Pod.isOver).map Pod.name ++ alive
  created : creations answers = creations answers'
  written : writings answers = writings answers'
  pods : m₁.pods = m₂.pods
  config : m₁.config = m₂.config

/-- The status that a pass has computed by its end, by what it listed, the pods it asked for and those it
remembers. -/
def computed (id : Identity) (m : Memory) (spec : ClusterSpec) (listed : List Pod)
    (answers : List Answered) (m' : Memory) (now : Timestamp) : ClusterStatus :=
  built ⟨spec, Plan.ofListing id spec listed, (creations answers).map Pod.name⟩ m'.pods m now

/-- Two passes have computed the same status, the one at `now` and the other at `now'`: both have asked to
publish it or neither has, and both remember it or neither does. -/
structure SameStatus (id : Identity) (m : Memory) (spec : ClusterSpec) (listed listed' : List Pod)
    (answers answers' : List Answered) (m₁ m₂ : Memory) (now now' : Timestamp) : Prop where
  computed : computed id m spec listed answers m₁ = computed id m spec listed' answers' m₂
  asked : let s := Pass.computed id m spec listed answers m₁
    answers.filterMap Answered.asked? = (if unchanged m.status (s now) then [] else [s now]) ∧
      answers'.filterMap Answered.asked? = (if unchanged m.status (s now) then [] else [s now'])
  remembered : let s := Pass.computed id m spec listed answers m₁
    ∃ told : Bool, m₁.status = (if told then some (s now) else m.status) ∧
      m₂.status = (if told then some (s now') else m.status)

/-- What a pass does once it has its names depends on the removals of its plan in no way. -/
theorem Minutes.work_eq {r r' : Minutes id m spec} {plan : Plan} {gone gone' : List Removal}
    (hplan : r.plan = { plan with removals := gone })
    (hplan' : r'.plan = { plan with removals := gone' }) (hplanned : r.planned = r'.planned) :
    config id r.work = config id r'.work ∧ keptRecords r.plan = keptRecords r'.plan ∧
      r.plan.ready = r'.plan.ready ∧
      ∀ size, r.plan.phase spec r.planned size = r'.plan.phase spec r'.planned size := by
  rw [Minutes.work, Minutes.work, hplan, hplan', hplanned]
  exact ⟨rfl, rfl, rfl, fun size => rfl⟩

theorem AnsweredAlike.oks_eq {μ : Method} {l l' : List Answered} (h : AnsweredAlike μ answers answers')
    (hl : outcomes μ answers = l.map Answered.isOk) (hl' : outcomes μ answers' = l'.map Answered.isOk)
    (hlength : l.length = l'.length) : l.map Answered.isOk = l'.map Answered.isOk := by
  rw [← hl, ← hl']
  apply h.outcomes_eq
  rw [hl, hl', List.length_map, List.length_map, hlength]

namespace Minutes

variable {r r' : Minutes id m spec}

structure Same (r r' : Minutes id m spec) : Prop where
  pods : r.after.pods = r'.after.pods
  config : r.after.config = r'.after.config
  told : r.published.any Answered.isOk = r'.published.any Answered.isOk
  status : built r.work r.records m = built r'.work r'.records m

/-- Plans that differ in the pods that have finished only lead to the same work, if it is answered alike.
-/
theorem same {plan : Plan} {gone gone' : List Removal} (hr : r.Sound fuel) (hr' : r'.Sound fuel)
    (hplan : r.plan = { plan with removals := gone })
    (hplan' : r'.plan = { plan with removals := gone' }) (hplanned : r.planned = r'.planned)
    (halike : ∀ μ ∈ [Method.applyConfigMap, .createPod, .patchStatus],
      AnsweredAlike μ r.replies r'.replies) : r.Same r' := by
  obtain ⟨hconfig, hkept, hready, hphase⟩ := work_eq hplan hplan' hplanned
  have htext : r.text = r'.text := congrArg ServerConfig.render hconfig
  have hlength {l l' : List Answered} (h : l.map (·.request) = l'.map (·.request)) :
      l.length = l'.length := by
    have hmap := congrArg List.length h
    rwa [List.length_map, List.length_map] at hmap
  -- The same is asked for, so what came of it can be compared from the first to the last.
  have hwritten : r.written.map (·.request) = r'.written.map (·.request) := by
    rw [hr.written, hr'.written, htext, hconfig]
  have hcreated : r.created.map (·.request) = r'.created.map (·.request) := by
    rw [hr.created, hr'.created, hplanned]
  have hwrittenOk : r.written.map Answered.isOk = r'.written.map Answered.isOk :=
    (halike _ (.head _)).oks_eq hr.outcomes_written hr'.outcomes_written (hlength hwritten)
  have hcreatedOk : r.created.map Answered.isOk = r'.created.map Answered.isOk :=
    (halike _ (.tail _ (.head _))).oks_eq hr.outcomes_created hr'.outcomes_created (hlength hcreated)
  have hrecords : r.records = r'.records := by
    unfold records recordsAfter
    rw [filterMap_created?_congr hcreated hcreatedOk, hkept]
  have hstatus : built r.work r.records m = built r'.work r'.records m := by
    funext now
    calc built r.work r.records m now
      _ = Pass.status spec (r.plan.phase spec r.planned r.records.length) r.records.length r.plan.ready
        m.status now := rfl
      _ = Pass.status spec (r'.plan.phase spec r'.planned r'.records.length) r'.records.length
        r'.plan.ready m.status now := by rw [hphase, hready, hrecords]
      _ = built r'.work r'.records m now := rfl
  have hpublished : r.published.length = r'.published.length := by
    have hnew : unchanged m.status r.status = unchanged m.status r'.status := by
      have hsame : r'.status = built r.work r.records m r'.moment := congrFun hstatus.symm _
      rw [hsame]
      exact unchanged_congr (status_agrees ..) m.status
    rw [hr.published_length, hr'.published_length, hnew]
  have hpublishedOk : r.published.map Answered.isOk = r'.published.map Answered.isOk :=
    (halike _ (.tail _ (.tail _ (.head _)))).oks_eq hr.outcomes_published hr'.outcomes_published
      hpublished
  have hall (l : List Answered) : l.all Answered.isOk = (l.map Answered.isOk).all fun ok => ok := by
    rw [List.all_map]
    rfl
  have hany (l : List Answered) : l.any Answered.isOk = (l.map Answered.isOk).any fun ok => ok := by
    rw [List.any_map]
    rfl
  refine ⟨hrecords, ?_, ?_, hstatus⟩
  · rw [after, after, hall, hwrittenOk, ← hall, htext]
  · rw [hany, hpublishedOk, ← hany]

/-- Names that are drawn from the same source are the same. -/
theorem planned_eq {plan : Plan} {gone gone' : List Removal} {d e e' : Draws}
    (hplan : r.plan = { plan with removals := gone })
    (hplan' : r'.plan = { plan with removals := gone' })
    (h : Naming.plan id.name fuel r.plan.keptNames (r.plan.shortfall spec) d = some (r.planned, e))
    (h' : Naming.plan id.name fuel r'.plan.keptNames (r'.plan.shortfall spec) d =
      some (r'.planned, e')) : r.planned = r'.planned := by
  rw [hplan] at h
  rw [hplan'] at h'
  have hsame : some (r.planned, e) = some (r'.planned, e') := h.symm.trans h'
  exact congrArg Prod.fst (Option.some.inj hsame)

variable {spec₀ spec₁ : ClusterSpec}

/-- They ask for the same pods and the same configuration. -/
theorem asks_eq {plan : Plan} {gone gone' : List Removal} (hr : r.Sound fuel) (hr' : r'.Sound fuel)
    (hservices : [a.request, b.request] = (services id spec₀).map .createService)
    (hservices' : [a'.request, b'.request] = (services id spec₁).map .createService)
    (hplan : r.plan = { plan with removals := gone })
    (hplan' : r'.plan = { plan with removals := gone' }) (hplanned : r.planned = r'.planned) :
    creations (a :: b :: r.answered) = creations (a' :: b' :: r'.answered) ∧
      writings (a :: b :: r.answered) = writings (a' :: b' :: r'.answered) := by
  obtain ⟨hconfig, -⟩ := work_eq hplan hplan' hplanned
  have htext : r.text = r'.text := congrArg ServerConfig.render hconfig
  obtain ⟨-, hcreated, hwritten⟩ := hr.asks hservices
  obtain ⟨-, hcreated', hwritten'⟩ := hr'.asks hservices'
  rw [hplanned] at hcreated
  rw [htext, hconfig] at hwritten
  exact ⟨hcreated.trans hcreated'.symm, hwritten.trans hwritten'.symm⟩

/-- The status is the one that follows from the listing and from what is seen of the pass. -/
theorem built_eq_computed (hr : r.Sound fuel)
    (hservices : [a.request, b.request] = (services id spec₀).map .createService) :
    built r.work r.records m = computed id m spec r.listed (a :: b :: r.answered) r.after := by
  have hplanned : (creations (a :: b :: r.answered)).map Pod.name = r.planned := by
    rw [(hr.asks hservices).2.1, List.map_map]
    exact List.map_id _
  unfold computed
  rw [hplanned]
  rfl

/-- What two such passes have built they have computed from what is seen of them. -/
theorem Same.sameStatus (h : r.Same r') (hr : r.Sound fuel) (hr' : r'.Sound fuel)
    (hservices : [a.request, b.request] = (services id spec₀).map .createService)
    (hservices' : [a'.request, b'.request] = (services id spec₁).map .createService) :
    SameStatus id m spec r.listed r'.listed (a :: b :: r.answered) (a' :: b' :: r'.answered) r.after
      r'.after r.moment r'.moment := by
  have hcomputed := built_eq_computed hr hservices
  have hcomputed' := built_eq_computed hr' hservices'
  have hstatus : r.status = computed id m spec r.listed (a :: b :: r.answered) r.after r.moment :=
    congrFun hcomputed _
  have hstatus' : r'.status = computed id m spec r.listed (a :: b :: r.answered) r.after r'.moment :=
    congrFun (h.status.symm.trans hcomputed) _
  have hasked := hr.asks_status hservices
  have hasked' := hr'.asks_status hservices'
  have hnew : unchanged m.status r'.status = unchanged m.status r.status := by
    rw [hstatus, hstatus']
    exact unchanged_congr (status_agrees ..) m.status
  rw [hnew, hstatus, hstatus'] at hasked'
  rw [hstatus] at hasked
  refine ⟨hcomputed.symm.trans (h.status.trans hcomputed'), ⟨hasked, hasked'⟩,
    r.published.any Answered.isOk, ?_, ?_⟩
  · exact congrArg (fun s => if r.published.any Answered.isOk then some s else m.status) hstatus
  · rw [h.told]
    exact congrArg (fun s => if r'.published.any Answered.isOk then some s else m.status) hstatus'

end Minutes

/-- The deletions of a pass that has stopped: first the pods that have finished, as they are listed. -/
theorem deletions_eq {plan : Plan} (h : Runs id fuel (start id spec) m (a :: b :: c :: answers) stage m')
    (hlisted : c.reply = .ok listed) (hover : stage.request? id = none)
    (hplan : Plan.ofListing id b.desk.spec listed =
      { plan with removals := Plan.terminated listed ++ plan.removals }) :
    deletions (a :: b :: c :: answers) =
      (listed.filter Pod.isOver).map Pod.name ++ plan.removals.map Removal.name := by
  have hpast : stage.isRemoving = false := by
    rcases (runs_reached h hlisted).stops hover with rfl | rfl <;> rfl
  have hdeleted := (runs_reached h hlisted).stands.deleted.2 hpast
  rw [Outset.asked_of_none hover, Outset.removed, Outset.plan, hplan, List.map_append,
    Plan.terminated_names] at hdeleted
  exact hdeleted

/-- Two passes of a controller that remembers the same, that go by the same spec and draw the same names,
and that list the same pods in any two orders, stop in the same place. If writes, creations and
publications come out alike, whatever comes of the deletions, they delete the same pods, ask for the same
pods and the same configuration, remember the same of both, and compute the same status. -/
theorem passes_agree {spec' : ClusterSpec}
    (h : Runs id fuel (start id spec) m (a :: b :: c :: answers) stage m₁)
    (h' : Runs id fuel (start id spec') m (a' :: b' :: c' :: answers') stage' m₂)
    (hlisted : c.reply = .ok listed) (hlisted' : c'.reply = .ok listed')
    (hperm : listed.Perm listed') (hnames : (listed.map Pod.name).Nodup)
    (hspec : b.desk.spec = b'.desk.spec)
    (hover : stage.request? id = none) (hover' : stage'.request? id = none)
    (hdraws : lastDraws c.desk.draws (answers.filter fun x => x.request.method = .deletePod) =
      lastDraws c'.desk.draws (answers'.filter fun x => x.request.method = .deletePod))
    (halike : ∀ μ ∈ [Method.applyConfigMap, .createPod, .patchStatus],
      AnsweredAlike μ answers answers') :
    stage = stage' ∧
      Agree listed listed' (a :: b :: c :: answers) (a' :: b' :: c' :: answers') m₁ m₂ ∧
      (stage = .finished → SameStatus id m b.desk.spec listed listed' (a :: b :: c :: answers)
        (a' :: b' :: c' :: answers') m₁ m₂
        (lastTime c.desk.now (answers.filter fun x => x.request.method ≠ .patchStatus))
        (lastTime c'.desk.now (answers'.filter fun x => x.request.method ≠ .patchStatus))) := by
  obtain ⟨plan, hplan, hplan'⟩ := Plan.exists_shared id b.desk.spec hperm hnames
  have hstage : stage = stage' := by
    rw [stops_eq h hlisted hover, stops_eq h' hlisted' hover', ← hspec, hdraws, hplan, hplan']
    rfl
  have hdeleted := deletions_eq h hlisted hover hplan
  have hdeleted' := deletions_eq h' hlisted' hover' (hspec ▸ hplan')
  have hsame : (deletions (a :: b :: c :: answers)).Perm
      (deletions (a' :: b' :: c' :: answers')) := by
    rw [hdeleted, hdeleted']
    exact ((hperm.filter _).map _).append_right _
  have hordered : ∃ alive,
      deletions (a :: b :: c :: answers) = (listed.filter Pod.isOver).map Pod.name ++ alive ∧
        deletions (a' :: b' :: c' :: answers') = (listed'.filter Pod.isOver).map Pod.name ++ alive :=
    ⟨plan.removals.map Removal.name, hdeleted, hdeleted'⟩
  refine ⟨hstage, ?_⟩
  subst hstage
  rcases (runs_reached h hlisted).stops hover with rfl | rfl
  · obtain ⟨hservices, r, hr, hanswers, rfl, rfl, draws, hplanned⟩ := minutes_of_start h hlisted
    obtain ⟨hservices', hminutes'⟩ := minutes_of_start h' hlisted'
    rw [← hspec] at hminutes'
    obtain ⟨r', hr', hanswers', rfl, rfl, draws', hplanned'⟩ := hminutes'
    obtain ⟨rfl, rfl⟩ := Minutes.eq_replies hanswers
    obtain ⟨rfl, rfl⟩ := Minutes.eq_replies hanswers'
    -- Both draw from the same source, and plan the same names.
    rw [hr.filter_deletes, hr'.filter_deletes] at hdraws
    rw [hdraws] at hplanned
    have hnamed : r.planned = r'.planned := Minutes.planned_eq hplan hplan' hplanned hplanned'
    have hboth : r.Same r' := Minutes.same hr hr' hplan hplan' hnamed halike
    obtain ⟨hcreated, hwritten⟩ := Minutes.asks_eq hr hr' hservices hservices' hplan hplan' hnamed
    refine ⟨⟨hsame, hordered, hcreated, hwritten, hboth.pods, hboth.config⟩, fun _ => ?_⟩
    rw [hr.filter_moment, hr'.filter_moment]
    exact hboth.sameStatus hr hr' hservices hservices'
  · -- Without names nothing else is asked for, and nothing is forgotten.
    obtain ⟨hwritten, hcreated, rfl⟩ := (runs_reached h hlisted).stands.unnamed rfl
    obtain ⟨hwritten', hcreated', rfl⟩ := (runs_reached h' hlisted').stands.unnamed rfl
    rw [Outset.asked_of_none rfl] at hwritten hcreated hwritten' hcreated'
    exact ⟨⟨hsame, hordered, hcreated.trans hcreated'.symm, hwritten.trans hwritten'.symm, rfl, rfl⟩,
      fun hover => by cases hover⟩

theorem AnsweredAlike.of_eq {μ : Method} (h : outcomes μ answers = outcomes μ answers') :
    AnsweredAlike μ answers answers' := by
  intro k x x' hx hx'
  rw [h, hx'] at hx
  exact (Option.some.inj hx).symm

/-- In a replay the random source stands still. -/
theorem lastDraws_replay (d : Draws) (hd : d = ⟨fun n => n, 0⟩) (id : Identity) (fuel : Nat)
    (spec : ClusterSpec) (replies : List (Reply × Timestamp)) (stage : Stage) (m : Memory)
    (P : Answered → Bool) :
    lastDraws d ((replay id fuel spec replies stage m).1.filter P) = ⟨fun n => n, 0⟩ := by
  have hall : ∀ a ∈ (replay id fuel spec replies stage m).1, a.desk.draws = ⟨fun n => n, 0⟩ := by
    induction replies generalizing stage m with
    | nil => exact fun a ha => absurd ha List.not_mem_nil
    | cons reply rest ih =>
      unfold replay
      split
      · exact fun a ha => absurd ha List.not_mem_nil
      · exact List.forall_mem_cons.mpr ⟨rfl, ih _ _⟩
  have hlast {answers : List Answered} (h : ∀ a ∈ answers, a.desk.draws = ⟨fun n => n, 0⟩) (d : Draws)
      (hd : d = ⟨fun n => n, 0⟩) : lastDraws d answers = ⟨fun n => n, 0⟩ := by
    induction answers generalizing d with
    | nil => exact hd
    | cons a rest ih =>
      obtain ⟨ha, hrest⟩ := List.forall_mem_cons.mp h
      exact ih hrest a.desk.draws ha
  exact hlast (fun a ha => hall a (List.mem_of_mem_filter ha)) d hd

def completed : Pod :=
  { metadata := { name := some "demo-done" }, status := some { phase := some "Succeeded" } }

/-- The plan of a cluster of four for the elders and two pods that have finished, in any order. -/
theorem elders_plan (hperm : listed.Perm (completed :: crowd)) : Plan.ofListing demo { size := 4 } listed =
    Plan.ofLive { size := 4 } (Plan.terminated listed) (elders.map (LivePod.ofPod demo)) := by
  have hnames : (Plan.namesOf (elders.map (LivePod.ofPod demo))).Nodup := by decide +kernel
  have hfound : (elders.map (LivePod.ofPod demo)).Perm (Plan.found demo (completed :: crowd)) := by
    decide +kernel
  have hsorted : (elders.map (LivePod.ofPod demo)).Pairwise fun p q => p.le q = true := by
    decide +kernel
  refine Plan.ofListing_of_sorted hnames (hfound.trans ?_) hsorted
  exact (((hperm.symm.filter _).filter _).map _)

def gathering (listed : List Pod) (seconds : Int) (deletion : Reply) : List Answered × Stage × Memory :=
  replayPlan demo 9 { size := 4 } listed
    (Plan.ofLive { size := 4 } (Plan.terminated listed) (elders.map (LivePod.ofPod demo)))
    ([deletion, deletion, .ok [], .ok [], .ok []].map fun reply => (reply, ⟨seconds, 0⟩))

/-- Listed in the opposite order, the finished pods are deleted in the opposite order, but all else is
the same, although no deletion works. -/
theorem passes_agree_reversed :
    let there := gathering (completed :: crowd) 20 (.ok [])
    let back := gathering (completed :: crowd).reverse 30 (.error .shutdown)
    Agree (completed :: crowd) (completed :: crowd).reverse there.1 back.1 there.2.2 back.2.2 ∧
      SameStatus demo {} { size := 4 } (completed :: crowd) (completed :: crowd).reverse there.1 back.1
        there.2.2 back.2.2 ⟨20, 0⟩ ⟨30, 0⟩ ∧
      deletions there.1 = ["demo-done", "demo-lost"] ∧
      deletions back.1 = ["demo-lost", "demo-done"] ∧ (creations there.1).length = 1 := by
  intro there back
  have hperm : (completed :: crowd).Perm (completed :: crowd).reverse := (List.reverse_perm _).symm
  have hthere : Runs demo 9 (start demo { size := 4 }) {} there.1 there.2.1 there.2.2 :=
    replayPlan_runs (elders_plan (.refl _)) _
  have hback : Runs demo 9 (start demo { size := 4 }) {} back.1 back.2.1 back.2.2 :=
    replayPlan_runs (elders_plan hperm.symm) _
  have hnames : ((completed :: crowd).map Pod.name).Nodup := by decide +kernel
  have hover : there.2.1.isFinished = true ∧ back.2.1.isFinished = true := by decide +kernel
  have hfinished := Stage.eq_finished hover.1
  have hfinished' := Stage.eq_finished hover.2
  rw [hfinished] at hthere
  rw [hfinished'] at hback
  have halike : ∀ μ ∈ [Method.applyConfigMap, .createPod, .patchStatus],
      AnsweredAlike μ (there.1.drop 3) (back.1.drop 3) := by
    have houtcomes : ∀ μ ∈ [Method.applyConfigMap, .createPod, .patchStatus],
        outcomes μ (there.1.drop 3) = outcomes μ (back.1.drop 3) := by decide +kernel
    exact fun μ hμ => .of_eq (houtcomes μ hμ)
  obtain ⟨-, hagree, hstatus⟩ := passes_agree hthere hback rfl rfl hperm hnames rfl rfl rfl
    ((lastDraws_replay _ rfl ..).trans (lastDraws_replay _ rfl ..).symm) halike
  exact ⟨hagree, hstatus rfl, by decide +kernel, by decide +kernel, by decide +kernel⟩

end Pass

end NatsFleet
