import NatsFleet.Controller.Pass
import Mathlib.Data.List.Basic

/-!
The minutes of a pass: what it asks for from its first request to its last, whatever the replies are,
and what the controller remembers afterwards.
-/
namespace NatsFleet.Pass

/-- A request that came back, and what the controller went by when it read the reply. -/
structure Answered where
  request : Request
  reply : Reply
  desk : Desk

def Answered.isOk (a : Answered) : Bool := a.reply.isOk

theorem Answered.isOk_ok {a : Answered} {listed : List Pod} (h : a.reply = .ok listed) :
    a.isOk = true := by
  rw [isOk, h]
  rfl

theorem Answered.isOk_error {a : Answered} {e : Failure} (h : a.reply = .error e) :
    a.isOk = false := by
  rw [isOk, h]
  rfl

def Answered.created? (a : Answered) : Option String :=
  match a.request, a.reply with
  | .createPod pod, .ok _ => some pod.name
  | _, _ => none

/-- A pass goes from one stage to another, and these requests come back on the way. By each reply the
spec, the random source and the clock may have changed in any way; the memory is the pass's own. -/
inductive Runs (id : Identity) (fuel : Nat) :
    Stage → Memory → List Answered → Stage → Memory → Prop
  | refl (stage : Stage) (m : Memory) : Runs id fuel stage m [] stage m
  | reply {stage stage' : Stage} {m m' : Memory} {a : Answered} {rest : List Answered}
      (hrequest : stage.request? id = some a.request) (hmemory : a.desk.memory = m)
      (hrest : Runs id fuel (resume id fuel stage a.reply a.desk).1
        (resume id fuel stage a.reply a.desk).2.memory rest stage' m') :
      Runs id fuel stage m (a :: rest) stage' m'

def Ends (id : Identity) (fuel : Nat) (next : Stage × Desk) (answered : List Answered)
    (m' : Memory) : Prop :=
  Runs id fuel next.1 next.2.memory answered .finished m'

def lastTime (t : Timestamp) (answered : List Answered) : Timestamp :=
  answered.foldl (fun _ a => a.desk.now) t

def lastDraws (draws : Draws) (answered : List Answered) : Draws :=
  answered.foldl (fun _ a => a.desk.draws) draws

def recordsAfter (id : Identity) (records : List PodRecord) (created : List Answered) :
    List PodRecord :=
  (created.filterMap Answered.created?).foldl (fun records name =>
    putRecord (newRecord id name) records) records

def built (w : Work) (records : List PodRecord) (m : Memory) (now : Timestamp) : ClusterStatus :=
  status w.spec (w.plan.phase w.spec w.planned records.length) records.length w.plan.ready m.status
    now

/-- What a pass did from its listing on: the listed pods, the names it planned, and the replies to its
removals, to the write of the configuration, to its creations and to its publication. -/
structure Minutes (id : Identity) (m : Memory) (spec : ClusterSpec) where
  listing : Answered
  listed : List Pod
  planned : List String
  removed : List Answered
  written : List Answered
  created : List Answered
  published : List Answered

namespace Minutes

variable {id : Identity} {m : Memory} {spec : ClusterSpec} (r : Minutes id m spec)

def plan : Plan := Plan.ofListing id spec r.listed

def work : Work := ⟨spec, r.plan, r.planned⟩

def text : String := (config id r.work).render

def records : List PodRecord := recordsAfter id (keptRecords r.plan) r.created

def moment : Timestamp :=
  lastTime r.listing.desk.now (r.removed ++ (r.written ++ r.created))

def status : ClusterStatus := built r.work r.records m r.moment

def answered : List Answered :=
  r.listing :: (r.removed ++ (r.written ++ (r.created ++ r.published)))

def after : Memory where
  pods := r.records
  config := if r.written.all Answered.isOk then some r.text else none
  status := if r.published.any Answered.isOk then some r.status else m.status

/-- The pass asked for what its plan says, wrote the configuration unless it was remembered, and
published the status unless it said nothing new. -/
structure Sound (fuel : Nat) : Prop where
  listing : r.listing.request = .listPods (Manifest.labelSelector id.name)
  listed : r.listing.reply = .ok r.listed
  removed : r.removed.map (·.request) = r.plan.removals.map fun q => .deletePod q.name
  planned : ∃ draws draws', Naming.plan id.name fuel r.plan.keptNames (r.plan.shortfall spec) draws =
    some (r.planned, draws')
  written : r.written.map (·.request) =
    if m.config = some r.text then []
    else [.applyConfigMap (Manifest.configMap id spec (config id r.work))]
  created : r.created.map (·.request) =
    r.planned.map fun name => .createPod (Manifest.pod id spec name)
  published : r.published.map (·.request) =
    if unchanged m.status r.status then [] else [.patchStatus id.name r.status]

end Minutes

variable {id : Identity} {fuel : Nat} {stage stage' : Stage} {m m' : Memory}
  {answers : List Answered} {w : Work} {records : List PodRecord} {d : Desk}

/-- A run that is not over goes on with the reply to the request of its stage. -/
theorem Runs.answered {request : Request} (hrequest : stage.request? id = some request)
    (h : Runs id fuel stage m answers .finished m') :
    ∃ a rest, answers = a :: rest ∧ a.request = request ∧ a.desk.memory = m ∧
      Ends id fuel (resume id fuel stage a.reply a.desk) rest m' := by
  cases h with
  | refl => cases hrequest
  | @reply _ _ _ _ a rest hrequest' hmemory hrest =>
    have hsame : some a.request = some request := hrequest'.symm.trans hrequest
    exact ⟨a, rest, rfl, Option.some.inj hsame, hmemory, hrest⟩

/-- A pass that is over asks for nothing. -/
theorem Runs.over (h : Runs id fuel .finished m answers .finished m') :
    answers = [] ∧ m' = m := by
  cases h with
  | refl => exact ⟨rfl, rfl⟩
  | reply hrequest => cases hrequest

/-- A pass that looks for names without end never ends. -/
theorem not_ends_naming : ¬ Runs id fuel .naming m answers .finished m' := by
  intro h
  cases h with
  | reply hrequest => cases hrequest

/-- What the end of a pass does, in terms of the status that it builds. -/
theorem conclude_eq (w : Work) (records : List PodRecord) (d : Desk) :
    conclude w records d =
      (if unchanged d.memory.status (built w records d.memory d.now) then .finished
        else .publishing (built w records d.memory d.now),
        { d with memory := { d.memory with pods := records } }) := by
  have hconclude : conclude w records d =
      if unchanged d.memory.status (built w records d.memory d.now) then
        (.finished, { d with memory := { d.memory with pods := records } })
      else (.publishing (built w records d.memory d.now),
        { d with memory := { d.memory with pods := records } }) := rfl
  rw [hconclude]
  split <;> rfl

/-- The publication is the last request of a pass, whatever comes of it. -/
theorem runs_publishing {s : ClusterStatus}
    (h : Runs id fuel (.publishing s) m answers .finished m') :
    answers.map (·.request) = [.patchStatus id.name s] ∧
      m' = { m with status := if answers.any Answered.isOk then some s else m.status } := by
  obtain ⟨a, rest, rfl, hrequest, hmemory, hrest⟩ := Runs.answered rfl h
  cases hreply : a.reply with
  | ok listed =>
    rw [hreply] at hrest
    obtain ⟨rfl, rfl⟩ := Runs.over hrest
    have hok : [a].any Answered.isOk = true := by simp [Answered.isOk_ok hreply]
    rw [hok, if_pos rfl, ← hmemory]
    exact ⟨congrArg (fun q => [q]) hrequest, rfl⟩
  | error e =>
    rw [hreply] at hrest
    obtain ⟨rfl, rfl⟩ := Runs.over hrest
    have hfailed : [a].any Answered.isOk = false := by simp [Answered.isOk_error hreply]
    rw [hfailed, if_neg Bool.false_ne_true, ← hmemory]
    exact ⟨congrArg (fun q => [q]) hrequest, rfl⟩

/-- The end of a pass publishes the status, or has nothing new to say. -/
theorem ends_conclude (h : Ends id fuel (conclude w records d) answers m') :
    let s := built w records d.memory d.now
    answers.map (·.request) =
        (if unchanged d.memory.status s then [] else [.patchStatus id.name s]) ∧
      m' = ⟨records, d.memory.config,
        if answers.any Answered.isOk then some s else d.memory.status⟩ := by
  intro s
  rw [conclude_eq] at h
  unfold Ends at h
  split at h
  · rename_i hsame
    obtain ⟨rfl, rfl⟩ := Runs.over h
    exact ⟨(if_pos hsame).symm, rfl⟩
  · rename_i hnew
    obtain ⟨hrequest, hafter⟩ := runs_publishing h
    exact ⟨hrequest.trans (if_neg hnew).symm, hafter⟩

theorem lastTime_cons (t : Timestamp) (a : Answered) (rest : List Answered) :
    lastTime t (a :: rest) = lastTime a.desk.now rest := rfl

/-- The last reading of the clock is the one at the last reply. -/
theorem lastTime_append (t : Timestamp) (front back : List Answered) :
    lastTime t (front ++ back) = lastTime (lastTime t front) back :=
  List.foldl_append

theorem recordsAfter_cons (records : List PodRecord) (a : Answered) (rest : List Answered) :
    recordsAfter id records (a :: rest) =
      recordsAfter id (a.created?.elim records fun name => putRecord (newRecord id name) records)
        rest := by
  unfold recordsAfter
  cases h : a.created? with
  | none => rw [List.filterMap_cons_none h]; rfl
  | some name => rw [List.filterMap_cons_some h]; rfl

/-- After the reply to a creation the pass goes on with the next one. -/
theorem resume_creating (fuel : Nat) {a : Answered} {name : String} (rest : List String)
    (records : List PodRecord) (hrequest : a.request = .createPod (Manifest.pod id w.spec name)) :
    ∃ d', resume id fuel (.creating w (name :: rest) records) a.reply a.desk =
        create w rest
          (a.created?.elim records fun name => putRecord (newRecord id name) records) d' ∧
      d'.memory = a.desk.memory ∧ d'.now = a.desk.now := by
  cases hreply : a.reply with
  | ok listed =>
    have hcreated : a.created? = some name := by
      simp only [Answered.created?, hrequest, hreply]
      rfl
    rw [hcreated]
    exact ⟨_, rfl, rfl, rfl⟩
  | error e =>
    have hcreated : a.created? = none := by simp only [Answered.created?, hrequest, hreply]
    rw [hcreated]
    cases e <;> exact ⟨_, rfl, rfl, rfl⟩

/-- From its creations on, a pass asks for the planned pods and then publishes. -/
theorem ends_create {todo : List String} (h : Ends id fuel (create w todo records d) answers m') :
    ∃ created published, answers = created ++ published ∧
      created.map (·.request) = todo.map (fun name => .createPod (Manifest.pod id w.spec name)) ∧
      let s := built w (recordsAfter id records created) d.memory (lastTime d.now created)
      published.map (·.request) =
          (if unchanged d.memory.status s then [] else [.patchStatus id.name s]) ∧
        m' = ⟨recordsAfter id records created, d.memory.config,
          if published.any Answered.isOk then some s else d.memory.status⟩ := by
  -- The replies come one for each name that is left.
  induction todo generalizing records d answers with
  | nil => exact ⟨[], answers, rfl, rfl, ends_conclude h⟩
  | cons name rest ih =>
    have hruns : Runs id fuel (.creating w (name :: rest) records) d.memory answers .finished m' := h
    obtain ⟨a, later, rfl, hrequest, hmemory, hrest⟩ := Runs.answered rfl hruns
    obtain ⟨d', hnext, hmemory', hnow'⟩ := resume_creating fuel rest records hrequest
    rw [hnext] at hrest
    obtain ⟨created, published, rfl, hcreated, hpublished⟩ := ih hrest
    refine ⟨a :: created, published, rfl, ?_, ?_⟩
    · rw [List.map_cons, List.map_cons, hrequest, hcreated]
    · rw [hmemory'.trans hmemory, hnow'] at hpublished
      rw [recordsAfter_cons, lastTime_cons]
      exact hpublished

/-- The configuration is written unless it is remembered, and then the pods are created. -/
theorem ends_configure (h : Ends id fuel (configure id w d) answers m') :
    let text := (config id w).render
    ∃ written created published, answers = written ++ (created ++ published) ∧
      written.map (·.request) = (if d.memory.config = some text then []
        else [.applyConfigMap (Manifest.configMap id w.spec (config id w))]) ∧
      created.map (·.request) =
        w.planned.map (fun name => .createPod (Manifest.pod id w.spec name)) ∧
      let records := recordsAfter id (keptRecords w.plan) created
      let s := built w records d.memory (lastTime d.now (written ++ created))
      published.map (·.request) =
          (if unchanged d.memory.status s then [] else [.patchStatus id.name s]) ∧
        m' = ⟨records, if written.all Answered.isOk then some text else none,
          if published.any Answered.isOk then some s else d.memory.status⟩ := by
  intro text
  unfold configure at h
  split at h
  · rename_i hsame
    obtain ⟨created, published, rfl, hcreated, hpublished, hafter⟩ := ends_create h
    refine ⟨[], created, published, rfl, (if_pos hsame).symm, hcreated, hpublished, ?_⟩
    rw [hafter, hsame]
    rfl
  · rename_i hnew
    have hruns : Runs id fuel (.configuring w) d.memory answers .finished m' := h
    obtain ⟨a, later, rfl, hrequest, hmemory, hrest⟩ := Runs.answered rfl hruns
    rw [← hmemory]
    -- The reply settles what is remembered as the configuration in place.
    have hnext : ∃ d', resume id fuel (.configuring w) a.reply a.desk =
        create w w.planned (keptRecords w.plan) d' ∧ d'.now = a.desk.now ∧
        d'.memory = { a.desk.memory with config := if a.isOk then some text else none } := by
      cases hreply : a.reply with
      | ok listed =>
        rw [Answered.isOk_ok hreply]
        exact ⟨_, rfl, rfl, rfl⟩
      | error e =>
        rw [Answered.isOk_error hreply]
        exact ⟨_, rfl, rfl, rfl⟩
    obtain ⟨d', hnext, hnow', hmemory'⟩ := hnext
    rw [hnext] at hrest
    obtain ⟨created, published, rfl, hcreated, hpublished, hafter⟩ := ends_create hrest
    rw [hmemory', hnow'] at hpublished hafter
    refine ⟨[a], created, published, rfl, ?_, hcreated, hpublished, ?_⟩
    · rw [hmemory]
      exact (congrArg (fun q => [q]) hrequest).trans (if_neg hnew).symm
    · rw [hafter]
      simp only [List.all_cons, List.all_nil, Bool.and_true]
      rfl

/-- Once a pass is past its removals, each of them has come back, and its names have been planned. -/
theorem runs_remove {spec : ClusterSpec} {plan : Plan} {todo : List Removal}
    (h : Runs id fuel (remove id fuel spec plan todo d).1
      (remove id fuel spec plan todo d).2.memory answers stage m')
    (hpast : ∀ q todo, stage ≠ .removing spec plan (q :: todo)) :
    ∃ removed rest d', answers = removed ++ rest ∧
      removed.map (·.request) = todo.map (fun q => .deletePod q.name) ∧ d'.memory = d.memory ∧
      d'.now = lastTime d.now removed ∧ d'.draws = lastDraws d.draws removed ∧
      Runs id fuel (name id fuel spec plan d').1 (name id fuel spec plan d').2.memory rest stage
        m' := by
  -- The replies come one for each pod that is left to be removed.
  induction todo generalizing d answers with
  | nil => exact ⟨[], answers, d, rfl, rfl, rfl, rfl, rfl, h⟩
  | cons q todo ih =>
    have hruns : Runs id fuel (.removing spec plan (q :: todo)) d.memory answers stage m' := h
    cases hruns with
    | refl => exact absurd rfl (hpast q todo)
    | @reply _ _ _ _ a later hrequest hmemory hrest =>
      have hnext : ∃ d', resume id fuel (.removing spec plan (q :: todo)) a.reply a.desk =
          remove id fuel spec plan todo d' ∧ d'.memory = a.desk.memory ∧ d'.now = a.desk.now ∧
          d'.draws = a.desk.draws := by
        cases a.reply <;> exact ⟨_, rfl, rfl, rfl, rfl⟩
      obtain ⟨d', hnext, hmemory', hnow', hdraws'⟩ := hnext
      rw [hnext] at hrest
      obtain ⟨removed, rest, d'', rfl, hremoved, hmemory'', hnow'', hdraws'', hruns⟩ := ih hrest
      refine ⟨a :: removed, rest, d'', rfl, ?_, ?_, ?_, ?_, hruns⟩
      · rw [List.map_cons, List.map_cons, ← Option.some.inj hrequest, hremoved]
      · exact hmemory''.trans (hmemory'.trans hmemory)
      · rw [hnow'', hnow', lastTime_cons]
      · rw [hdraws'', hdraws']
        rfl

/-- After the removals the names are planned, and the rest follows. -/
theorem ends_remove {spec : ClusterSpec} {plan : Plan} {todo : List Removal}
    (h : Ends id fuel (remove id fuel spec plan todo d) answers m') :
    ∃ removed rest d', answers = removed ++ rest ∧
      removed.map (·.request) = todo.map (fun q => .deletePod q.name) ∧
      d'.memory = d.memory ∧ d'.now = lastTime d.now removed ∧
      d'.draws = lastDraws d.draws removed ∧ Ends id fuel (name id fuel spec plan d') rest m' :=
  runs_remove h (by rintro _ _ ⟨⟩)

/-- The names are planned before anything else is asked for. -/
theorem ends_name {spec : ClusterSpec} {plan : Plan}
    (h : Ends id fuel (name id fuel spec plan d) answers m') :
    ∃ planned draws, Naming.plan id.name fuel plan.keptNames (plan.shortfall spec) d.draws =
        some (planned, draws) ∧
      Ends id fuel (configure id ⟨spec, plan, planned⟩ { d with draws := draws }) answers m' := by
  unfold name at h
  split at h
  · exact (not_ends_naming h).elim
  · rename_i planned draws hplanned
    exact ⟨planned, draws, hplanned, h⟩

/-- A pass that has listed the pods, and ends, has done what its minutes say. Its names are drawn from
the random source as it was at the last reply before. -/
theorem minutes_of_listed {spec : ClusterSpec} {c : Answered} {listed : List Pod}
    (h : Runs id fuel (.listing spec) m (c :: answers) .finished m') (hlisted : c.reply = .ok listed) :
    ∃ r : Minutes id m spec, r.Sound fuel ∧ c :: answers = r.answered ∧ m' = r.after ∧
      r.listed = listed ∧ ∃ draws, Naming.plan id.name fuel r.plan.keptNames (r.plan.shortfall spec)
        (lastDraws c.desk.draws r.removed) = some (r.planned, draws) := by
  obtain ⟨a, later, hcons, hrequest, hmemory, hrest⟩ := Runs.answered rfl h
  obtain ⟨rfl, rfl⟩ := List.cons.inj hcons
  rw [hlisted] at hrest
  obtain ⟨removed, rest, d, rfl, hremoved, hmemory', hnow, hdraws, hends⟩ := ends_remove hrest
  obtain ⟨planned, draws, hplanned, hends⟩ := ends_name hends
  obtain ⟨written, created, published, rfl, hwritten, hcreated, hpublished, hafter⟩ :=
    ends_configure hends
  have hbefore : d.memory = m := hmemory'.trans hmemory
  let r : Minutes id m spec := ⟨c, listed, planned, removed, written, created, published⟩
  -- The status is built at the last reply before it.
  have hstatus : built r.work r.records m (lastTime d.now (written ++ created)) = r.status := by
    rw [hnow, ← lastTime_append]
    rfl
  dsimp only at hwritten hpublished hafter
  rw [hbefore] at hwritten hpublished hafter
  refine ⟨r, ?_, rfl, ?_, rfl, draws, hdraws ▸ hplanned⟩
  · exact ⟨hrequest, hlisted, hremoved, ⟨_, _, hplanned⟩, hwritten, hcreated, hstatus ▸ hpublished⟩
  · rw [hafter]
    exact congrArg (fun s => (⟨r.records, _,
      if published.any Answered.isOk then some s else m.status⟩ : Memory)) hstatus

/-- From its listing on, a pass that ends has failed to list the pods, and leaves everything as it
is, or it has done what its minutes say. -/
theorem minutes_of_listing {spec : ClusterSpec}
    (h : Runs id fuel (.listing spec) m answers .finished m') :
    (∃ a e, answers = [a] ∧ a.request = .listPods (Manifest.labelSelector id.name) ∧
        a.reply = .error e ∧ m' = m) ∨
      ∃ r : Minutes id m spec, r.Sound fuel ∧ answers = r.answered ∧ m' = r.after := by
  obtain ⟨a, later, rfl, hrequest, hmemory, hrest⟩ := Runs.answered rfl h
  cases hreply : a.reply with
  | error e =>
    rw [hreply] at hrest
    obtain ⟨rfl, rfl⟩ := Runs.over hrest
    exact .inl ⟨a, e, rfl, hrequest, hreply, hmemory⟩
  | ok listed =>
    obtain ⟨r, hr, hanswers, hafter, -⟩ := minutes_of_listed h hreply
    exact .inr ⟨r, hr, hanswers, hafter⟩

/-- A pass first asks for the two services, and reads the spec anew after that. -/
theorem runs_start {spec : ClusterSpec} (h : Runs id fuel (start id spec) m answers .finished m') :
    ∃ a b rest, answers = a :: b :: rest ∧
      [a.request, b.request] = (services id spec).map .createService ∧
      Runs id fuel (.listing b.desk.spec) m rest .finished m' := by
  obtain ⟨a, later, rfl, ha, hmemory, hrest⟩ := Runs.answered rfl h
  obtain ⟨b, rest, rfl, hb, hmemory', hrest'⟩ := Runs.answered rfl hrest
  refine ⟨a, b, rest, rfl, by rw [ha, hb]; rfl, ?_⟩
  rw [show m = b.desk.memory from hmemory.symm.trans hmemory'.symm]
  exact hrest'

/-- A pass whose listing has come back, and which ends, has done what its minutes say. -/
theorem minutes_of_start {spec : ClusterSpec} {a b c : Answered} {listed : List Pod}
    (h : Runs id fuel (start id spec) m (a :: b :: c :: answers) .finished m')
    (hlisted : c.reply = .ok listed) :
    [a.request, b.request] = (services id spec).map .createService ∧
      ∃ r : Minutes id m b.desk.spec, r.Sound fuel ∧ c :: answers = r.answered ∧ m' = r.after ∧
        r.listed = listed ∧ ∃ draws,
          Naming.plan id.name fuel r.plan.keptNames (r.plan.shortfall b.desk.spec)
            (lastDraws c.desk.draws r.removed) = some (r.planned, draws) := by
  obtain ⟨a', b', rest, hanswers, hservices, hrest⟩ := runs_start h
  cases hanswers
  exact ⟨hservices, minutes_of_listed hrest hlisted⟩

end NatsFleet.Pass
