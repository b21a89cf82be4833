import NatsFleet.Controller.Progress
import NatsFleet.Proofs.Memo
import NatsFleet.Proofs.Supply

/-!
When a pass writes the configuration. It does so once, after its deletions and before its creations,
unless the last write of the controller succeeded with the same text; and each pod that it asks for is
among the routes that were written. A pass without names still removes pods, or looks for names.
-/
namespace NatsFleet

def Method.turn : Method → ℕ
  | .createService => 0
  | .listPods => 1
  | .deletePod => 2
  | .applyConfigMap => 3
  | .createPod => 4
  | .patchStatus => 5

def ConfigMap.text? (config : ConfigMap) : Option String := config.data.lookup Layout.configFile

namespace Pass

variable {id : Identity} {fuel : Nat} {spec : ClusterSpec} {m m' : Memory} {a b c : Answered}
  {answers front back : List Answered} {stage stage' : Stage} {listed : List Pod} {text : String}

def Answered.writes (a : Answered) : Bool := a.request.writes?.isSome

def Answered.wrote? (a : Answered) : Option String :=
  if a.isOk then a.request.writes?.bind ConfigMap.text? else none

def lastWrite (answers : List Answered) : Option Answered := (answers.filter Answered.writes).getLast?

/-- The text that is in place for sure: that of the last write, if it succeeded. -/
def inPlace (answers : List Answered) : Option String := (lastWrite answers).bind Answered.wrote?

def lastWritten (answers : List Answered) : Option String :=
  (answers.filterMap Answered.wrote?).getLast?

/-- The later the turn of a request, the lower the rank of the stage that makes it. -/
theorem Stage.turn_add_rank {q : Request} (h : stage.request? id = some q) :
    q.method.turn + stage.rank.1 = 6 := by
  cases stage with
  | services todo => cases todo <;> cases h; rfl
  | listing spec => cases h; rfl
  | removing spec plan todo => cases todo <;> cases h; rfl
  | naming => cases h
  | configuring w => cases h; rfl
  | creating w todo records => cases todo <;> cases h; rfl
  | publishing s => cases h; rfl
  | finished => cases h

theorem Before.fst_le {p q : ℕ × ℕ} (h : Before p q) : p.1 ≤ q.1 := by
  cases h with
  | left _ _ hlt => exact hlt.le
  | right _ _ => exact le_rfl

/-- All that a pass asks for comes in its turn. -/
theorem Runs.in_turn (h : Runs id fuel stage m answers stage' m') :
    ((asked id answers stage').Pairwise fun p q => p.method.turn ≤ q.method.turn) ∧
      ∀ q ∈ asked id answers stage', 6 ≤ q.method.turn + stage.rank.1 := by
  induction h with
  | refl stage m =>
    rw [asked, List.map_nil, List.nil_append]
    cases hrequest : stage.request? id with
    | none => exact ⟨.nil, fun q hq => absurd hq List.not_mem_nil⟩
    | some request =>
      refine ⟨List.pairwise_singleton _ _, fun q hq => ?_⟩
      rw [List.mem_singleton.mp hq]
      exact (Stage.turn_add_rank hrequest).ge
  | @reply stage stage' m m' a rest hrequest hmemory hrest ih =>
    -- A reply never raises the rank, and the rank says which requests are still to come.
    obtain ⟨hturns, hlater⟩ := ih
    have hnow := Stage.turn_add_rank hrequest
    have hle := (resume_before id fuel stage a.reply a.desk a.request hrequest).fst_le
    have hcons : asked id (a :: rest) stage' = a.request :: asked id rest stage' := rfl
    rw [hcons]
    refine ⟨List.pairwise_cons.mpr ⟨fun q hq => ?_, hturns⟩, List.forall_mem_cons.mpr ⟨hnow.ge, ?_⟩⟩
    · have hq := hlater q hq
      omega
    · intro q hq
      have hq := hlater q hq
      omega

theorem wrote?_of_not_writes (h : a.writes = false) : a.wrote? = none := by
  have hnone : a.request.writes? = none := Option.isNone_iff_eq_none.mp (by
    rw [← Option.not_isSome, ← Answered.writes, h]
    rfl)
  rw [Answered.wrote?, hnone, Option.bind_none, ite_self]

/-- What is in place after one more reply. -/
theorem inPlace_snoc (front : List Answered) (a : Answered) :
    inPlace (front ++ [a]) = if a.writes then a.wrote? else inPlace front := by
  rw [inPlace, lastWrite, List.filter_append]
  split
  · rename_i hwrites
    rw [List.filter_cons_of_pos hwrites, List.filter_nil, List.getLast?_concat]
    rfl
  · rename_i hother
    rw [List.filter_cons_of_neg hother, List.filter_nil, List.append_nil]
    rfl

/-- What is in place has been written successfully, and nothing else has since. -/
theorem lastWritten_of_inPlace (h : inPlace answers = some text) : lastWritten answers = some text := by
  induction answers using List.reverseRecOn with
  | nil => cases h
  | append_singleton front a ih =>
    rw [inPlace_snoc] at h
    rw [lastWritten, List.filterMap_append]
    cases hwrites : a.writes with
    | true =>
      rw [hwrites, if_pos rfl] at h
      rw [List.filterMap_cons_some h, List.filterMap_nil, List.getLast?_concat]
    | false =>
      rw [hwrites, if_neg Bool.false_ne_true] at h
      rw [List.filterMap_cons_none (wrote?_of_not_writes hwrites), List.filterMap_nil, List.append_nil]
      exact ih h

/-- The text in a config map is the rendered configuration. -/
theorem text?_configMap (id : Identity) (spec : ClusterSpec) (config : ServerConfig) :
    (Manifest.configMap id spec config).text? = some config.render := List.lookup_cons_self

/-- What a controller remembers after a reply is what is in place then. -/
theorem configAfter_eq (hrequest : stage.request? id = some a.request) :
    configAfter id (inPlace front) stage a.reply = inPlace (front ++ [a]) := by
  have hother (h : a.request.writes? = none) : inPlace front = inPlace (front ++ [a]) := by
    rw [inPlace_snoc, Answered.writes, h]
    rfl
  -- Only the reply to a write matters.
  cases stage with
  | configuring w =>
    have hwrite : a.request.writes? = some (Manifest.configMap id w.spec (config id w)) := by
      rw [← Option.some.inj hrequest]
      rfl
    have hwrote : a.wrote? = if a.isOk then some (config id w).render else none := by
      rw [Answered.wrote?, hwrite, Option.bind_some, text?_configMap]
    rw [inPlace_snoc, Answered.writes, hwrite, Option.isSome_some, if_pos rfl, hwrote]
    cases hreply : a.reply with
    | ok listed => rw [Answered.isOk_ok hreply]; rfl
    | error e => rw [Answered.isOk_error hreply]; rfl
  | services todo =>
    cases todo with
    | nil => cases hrequest
    | cons s rest => exact hother (by rw [← Option.some.inj hrequest]; rfl)
  | listing spec => exact hother (by rw [← Option.some.inj hrequest]; rfl)
  | removing spec plan todo =>
    cases todo with
    | nil => cases hrequest
    | cons r rest => exact hother (by rw [← Option.some.inj hrequest]; rfl)
  | naming => cases hrequest
  | creating w todo records =>
    cases todo with
    | nil => cases hrequest
    | cons name rest => exact hother (by rw [← Option.some.inj hrequest]; rfl)
  | publishing s => exact hother (by rw [← Option.some.inj hrequest]; rfl)
  | finished => cases hrequest

/-- A controller remembers what is in place, wherever a pass stands. -/
theorem Runs.config_eq (h : Runs id fuel stage m answers stage' m') (hm : m.config = inPlace front) :
    m'.config = inPlace (front ++ answers) := by
  -- `front` is what came back before, in this pass and in those before it.
  induction h generalizing front with
  | refl stage m => rwa [List.append_nil]
  | @reply stage stage' m m' a rest hrequest hmemory hrest ih =>
    have hnext : (resume id fuel stage a.reply a.desk).2.memory.config = inPlace (front ++ [a]) := by
      rw [resume_config, hmemory, hm, configAfter_eq hrequest]
    rw [List.append_cons]
    exact ih hnext

/-- A controller remembers what is in place from one pass to the next. -/
theorem Passes.config_eq {passes : List (List Answered)} (h : Passes id fuel m passes m')
    (hm : m.config = inPlace front) : m'.config = inPlace (front ++ passes.flatten) := by
  induction h generalizing front with
  | nil m => rwa [List.flatten_nil, List.append_nil]
  | cons spec hpass hlater ih =>
    rw [List.flatten_cons, ← List.append_assoc]
    exact ih (hpass.config_eq hm)

/-- Answers without a write change nothing in place. -/
theorem inPlace_append_of_none (h : (back.map (·.request)).filterMap Request.writes? = []) :
    inPlace (front ++ back) = inPlace front := by
  have hnone : back.filter Answered.writes = [] := by
    rw [List.filterMap_map, List.filterMap_eq_nil_iff] at h
    apply List.filter_eq_nil_iff.mpr
    intro a ha
    have hwrites : a.request.writes? = none := h a ha
    rw [Answered.writes, hwrites]
    exact Bool.false_ne_true
  rw [inPlace, lastWrite, List.filter_append, hnone, List.append_nil]
  rfl

/-- The only write of a pass is what is in place afterwards, if it has succeeded. -/
theorem inPlace_append_of_one {written : ConfigMap}
    (h : (back.map (·.request)).filterMap Request.writes? = [written])
    (hok : ∀ x ∈ back, x.writes = true → x.isOk = true) :
    inPlace (front ++ back) = written.text? := by
  rw [List.filterMap_map] at h
  -- What comes before the write does not matter, and what comes after it does not write.
  obtain ⟨l, a, r, rfl, hl, ha, hr⟩ := List.filterMap_eq_cons_iff.mp h
  have hwrite : a.request.writes? = some written := ha
  have hwrites : a.writes = true := by rw [Answered.writes, hwrite]; rfl
  have hlater : (r.map (·.request)).filterMap Request.writes? = [] := by
    rw [List.filterMap_map]
    exact hr
  have hsucceeded : a.isOk = true :=
    hok a (List.mem_append_right l List.mem_cons_self) hwrites
  have hsplit : front ++ (l ++ a :: r) = front ++ l ++ [a] ++ r := by simp
  rw [hsplit, inPlace_append_of_none hlater, inPlace_snoc, hwrites, if_pos rfl, Answered.wrote?,
    hsucceeded, if_pos rfl, hwrite]
  rfl

namespace Outset

variable {o : Outset}

/-- By the time a pass asks for a pod, the write of its configuration has come back. -/
theorem Reached.wrote (h : o.Reached fuel answers m stage) {pod : Pod}
    (hpod : pod ∈ (asked o.id answers stage).filterMap Request.creates?) :
    ∃ w, o.Names fuel w ∧ (answers.map (·.request)).filterMap Request.writes? = o.written w ∧
      pod ∈ o.created w.planned := by
  have hunnamed (hstage : stage.hasNames = false) : False := by
    rw [(h.stands.unnamed hstage).2.1] at hpod
    cases hpod
  cases stage with
  | configuring w =>
    -- The write is on its way, and no pod has been asked for yet.
    obtain ⟨-, -, -, hasks⟩ := h
    rw [asked, List.filterMap_append, hasks.created] at hpod
    cases hpod
  | creating w todo records =>
    cases todo with
    | nil => cases h
    | cons name todo =>
      obtain ⟨hw, -, -, made, hplanned, hasks⟩ := h
      have hcreated : (asked o.id answers (.creating w (name :: todo) records)).filterMap
          Request.creates? = o.created (made ++ [name]) := by
        refine (hasks.create (Manifest.pod o.id w.spec name)).created.trans ?_
        rw [created, created, List.map_append, hw.spec]
        rfl
      have hsplit : o.created w.planned = o.created (made ++ [name]) ++ o.created todo := by
        rw [hplanned, List.append_cons, created, List.map_append]
        rfl
      rw [hcreated] at hpod
      refine ⟨w, hw, hasks.written, ?_⟩
      rw [hsplit]
      exact List.mem_append_left _ hpod
  | publishing s =>
    obtain ⟨w, hw, -, hasks⟩ := h
    exact ⟨w, hw, hasks.written, (hasks.publish _ _).created ▸ hpod⟩
  | finished =>
    obtain ⟨w, hw, -, hasks⟩ := h
    rw [asked_of_none rfl] at hpod
    exact ⟨w, hw, hasks.written, hasks.created ▸ hpod⟩
  | _ => exact (hunnamed rfl).elim

/-- The configuration of a pass by the spec, the plan and the planned names. -/
theorem Names.config_eq {w : Work} (hw : o.Names fuel w) :
    config o.id w = .forCluster o.spec (o.plan.routes o.id w.planned) := by
  rw [config, hw.spec, hw.plan]

end Outset

/-- A text lists the address of a pod among its routes. -/
def RoutesTo (id : Identity) (pod : Pod) (text : String) : Prop :=
  ∃ routes, ServerConfig.Lists text routes ∧
    Manifest.routeAddress pod.name id.name id.namespaceName ∈ routes

/-- The configuration of a pass lists each pod that is created under one of its names. -/
theorem routesTo_created (plan : Plan) {planned : List String} {pod : Pod}
    (hpod : pod ∈ planned.map (Manifest.pod id spec)) :
    RoutesTo id pod (ServerConfig.forCluster spec (plan.routes id planned)).render := by
  obtain ⟨name, hname, rfl⟩ := List.mem_map.mp hpod
  have hroute : Manifest.routeAddress name id.name id.namespaceName ∈ plan.routes id planned :=
    List.mem_append_right _ (List.mem_map_of_mem hname)
  exact ⟨_, ServerConfig.lists_render spec _, hroute⟩

/-- A pass with these names for the missing pods: it writes the configuration of its own spec and routes,
unless that is in place already, and asks for the pods, or has begun to. -/
structure Configures (id : Identity) (spec : ClusterSpec) (plan : Plan) (past : List Answered)
    (planned : List String) (stage : Stage) (requests : List Request) : Prop where
  written : requests.filterMap Request.writes? =
    if inPlace past = some (ServerConfig.forCluster spec (plan.routes id planned)).render then []
    else [Manifest.configMap id spec (.forCluster spec (plan.routes id planned))]
  created : requests.filterMap Request.creates? <+: planned.map (Manifest.pod id spec)
  whole : stage.hasCreated = true →
    requests.filterMap Request.creates? = planned.map (Manifest.pod id spec)

variable {passes : List (List Answered)}

/-- Over several passes the memo is what the writes have left in place. -/
theorem Passes.memo_eq (hpasses : Passes id fuel {} passes m) : m.config = inPlace passes.flatten := by
  have hconfig : m.config = inPlace ([] ++ passes.flatten) := hpasses.config_eq rfl
  rwa [List.nil_append] at hconfig

/-- A pass that has names has made the one write that its text calls for, or none. -/
theorem runs_configures (hmemo : m.config = inPlace answers)
    {later : List Answered} (h : Runs id fuel (start id spec) m (a :: b :: c :: later) stage m')
    (hlisted : c.reply = .ok listed) (hstage : stage.hasNames = true) :
    ∃ planned, Configures id b.desk.spec (.ofListing id b.desk.spec listed) answers planned stage
      (asked id (a :: b :: c :: later) stage) := by
  obtain ⟨w, hw, hwritten, hcreated, hwhole, -⟩ := (runs_reached h hlisted).stands.named hstage
  rw [Outset.written, hw.config_eq] at hwritten
  exact ⟨w.planned, hmemo ▸ hwritten, hcreated, hwhole⟩

/-- If the write of a pass has not failed, the text that is in place lists each pod that the pass asks
for. -/
theorem runs_covers (hmemo : m.config = inPlace answers) {later : List Answered}
    (h : Runs id fuel (start id spec) m (a :: b :: c :: later) stage m')
    (hlisted : c.reply = .ok listed) {pod : Pod}
    (hpod : pod ∈ (asked id (a :: b :: c :: later) stage).filterMap Request.creates?)
    (hok : ∀ x ∈ a :: b :: c :: later, x.writes = true → x.isOk = true) :
    ∃ text, inPlace (answers ++ a :: b :: c :: later) = some text ∧ RoutesTo id pod text := by
  obtain ⟨w, hw, hwritten, hcreated⟩ := (runs_reached h hlisted).wrote hpod
  let plan := Plan.ofListing id b.desk.spec listed
  let config := ServerConfig.forCluster b.desk.spec (plan.routes id w.planned)
  have hwritten' : ((a :: b :: c :: later).map (·.request)).filterMap Request.writes? =
      if m.config = some config.render then [] else [Manifest.configMap id b.desk.spec config] := by
    rw [Outset.written, hw.config_eq] at hwritten
    exact hwritten
  refine ⟨config.render, ?_, routesTo_created plan hcreated⟩
  by_cases hsame : m.config = some config.render
  · -- Nothing is written, and what is in place stays.
    rw [if_pos hsame] at hwritten'
    rw [inPlace_append_of_none hwritten', ← hmemo, hsame]
  · rw [if_neg hsame] at hwritten'
    rw [inPlace_append_of_one hwritten' hok, text?_configMap]

/-- Over all passes of a controller, whatever they list, are told and are answered: a pass asks for its
deletions, then for at most one write of the configuration, then for its creations. Once it has names
for the missing pods, as it has when it is over, it writes the text of its own spec and routes, unless the
last write of the controller succeeded with that text; so it writes again after a failure. And if its own
write has not failed, each pod that it asks for is among the routes of the text that was written last.
Without names it is still removing pods, or it looks for names: if its random source is fair and there are
enough of them, it finds them once it may draw often enough. -/
theorem writes_skipped (hpasses : Passes id fuel {} passes m)
    (h : Runs id fuel (start id spec) m (a :: b :: c :: answers) stage m')
    (hlisted : c.reply = .ok listed) :
    let all := a :: b :: c :: answers
    let requests := asked id all stage
    let plan := Plan.ofListing id b.desk.spec listed
    (requests.Pairwise fun p q => p.method.turn ≤ q.method.turn) ∧
      (stage.hasNames = false →
        requests.filterMap Request.writes? = [] ∧ requests.filterMap Request.creates? = []) ∧
      (stage.hasNames = true →
        ∃ planned, Configures id b.desk.spec plan passes.flatten planned stage requests) ∧
      (stage.hasNames = true → (∃ x, lastWrite passes.flatten = some x ∧ x.isOk = false) →
        (requests.filterMap Request.writes?).length = 1) ∧
      (∀ pod ∈ requests.filterMap Request.creates?, (∀ x ∈ all, x.writes = true → x.isOk = true) →
        ∃ text, lastWritten (passes.flatten ++ all) = some text ∧ RoutesTo id pod text) ∧
      (stage.hasNames = true ∨ stage.isRemoving = true ∨
        stage = .naming ∧ Seeks id b.desk.spec plan fuel (lastDraws c.desk.draws answers)) ∧
      (stage.request? id = none → stage = .finished ∨ stage = .naming) := by
  intro all requests plan
  have hmemo := hpasses.memo_eq
  refine ⟨h.in_turn.1, fun hstage => ?_, runs_configures hmemo h hlisted, fun hstage hfailed => ?_,
    fun pod hpod hok => ?_, ?_, (runs_reached h hlisted).stops⟩
  · obtain ⟨hwritten, hcreated, -⟩ := (runs_reached h hlisted).stands.unnamed hstage
    exact ⟨hwritten, hcreated⟩
  · obtain ⟨x, hlast, hx⟩ := hfailed
    obtain ⟨planned, hconfigures⟩ := runs_configures hmemo h hlisted hstage
    have hnone : inPlace passes.flatten = none := by
      rw [inPlace, hlast, Option.bind_some, Answered.wrote?, hx, if_neg Bool.false_ne_true]
    rw [hconfigures.written, hnone, if_neg (by rintro ⟨⟩)]
    rfl
  · obtain ⟨text, hplace, hroute⟩ := runs_covers hmemo h hlisted hpod hok
    exact ⟨text, lastWritten_of_inPlace hplace, hroute⟩
  · have hreached := runs_reached h hlisted
    cases stage with
    | services todo => cases hreached
    | listing spec => cases hreached
    | removing spec plan todo => exact .inr (.inl rfl)
    | naming => exact .inr (.inr ⟨rfl, runs_seeks h hlisted⟩)
    | _ => exact .inl rfl

def drafting (spec : ClusterSpec) (listed : List Pod) (replies : List Reply) (m : Memory) :
    List Answered × Stage × Memory :=
  replay demo 9 spec ((.ok [] :: .ok [] :: .ok listed :: replies).map fun reply => (reply, ⟨20, 0⟩))
    (start demo spec) m

def drafts : List (List Answered × Stage × Memory) :=
  let first := drafting {} [] [.error .shutdown, .ok [], .ok []] {}
  let second := drafting { size := 2 } [serving] [.ok [], .error .shutdown, .ok []] first.2.2
  let third := drafting { size := 2 } [serving] [.ok [], .ok []] second.2.2
  [first, second, third]

/-- The second pass writes, as the last write failed. The third one does not write, and the pod that it
creates is among the routes that are in place. -/
theorem writes_skipped_drafts :
    let passes := drafts.map (·.1)
    (lastWrite passes[0]).map Answered.isOk = some false ∧ (writings passes[1]).length = 1 ∧
      writings passes[2] = [] ∧ ∃ pod text, creations passes[2] = [pod] ∧
        lastWritten (passes[0] ++ passes[1] ++ passes[2]) = some text ∧ RoutesTo demo pod text := by
  intro passes
  have hover : ∀ pass ∈ drafts, pass.2.1.isFinished = true := by decide +kernel
  have hpass (spec : ClusterSpec) (listed : List Pod) (replies : List Reply) (m : Memory)
      (h : drafting spec listed replies m ∈ drafts) :
      Runs demo 9 (start demo spec) m (drafting spec listed replies m).1 .finished
        (drafting spec listed replies m).2.2 := by
    rw [← Stage.eq_finished (hover _ h)]
    exact replay_runs ..
  have hfirst := hpass {} _ _ _ (.head _)
  have hsecond := hpass { size := 2 } _ _ _ (.tail _ (.head _))
  have hthird := hpass { size := 2 } _ _ _ (.tail _ (.tail _ (.head _)))
  have hfailed : (lastWrite passes[0]).map Answered.isOk = some false := by decide +kernel
  obtain ⟨x, hlast, hx⟩ := Option.map_eq_some_iff.mp hfailed
  obtain ⟨-, -, -, hagain, -⟩ := writes_skipped (.cons {} hfirst (.nil _)) hsecond rfl
  have hwritten := hagain rfl ⟨x, (congrArg lastWrite (List.append_nil _)).trans hlast, hx⟩
  rw [Outset.asked_of_none rfl] at hwritten
  obtain ⟨-, -, -, -, hroutes, -⟩ :=
    writes_skipped (.cons {} hfirst (.cons { size := 2 } hsecond (.nil _))) hthird rfl
  rw [Outset.asked_of_none rfl] at hroutes
  have hskipped : writings passes[2] = [] := List.isEmpty_iff.mp (by decide +kernel)
  have hone : (creations passes[2]).length = 1 := by decide +kernel
  obtain ⟨pod, hpod⟩ := List.length_eq_one_iff.mp hone
  have hmem : pod ∈ creations passes[2] := hpod ▸ List.mem_singleton_self pod
  obtain ⟨text, htext, hroute⟩ := hroutes pod hmem (by decide +kernel)
  have hflatten : [passes[0], passes[1]].flatten = passes[0] ++ passes[1] := by
    rw [List.flatten_cons, List.flatten_singleton]
  exact ⟨hfailed, hwritten, hskipped, pod, text, hpod, hflatten ▸ htext, hroute⟩

end Pass

end NatsFleet
