import NatsFleet.Proofs.Bench
import NatsFleet.Proofs.Conditions
import NatsFleet.Proofs.Minutes
import Mathlib.Data.List.Chain

/-!
The statuses that a controller publishes over any number of passes. Each pass publishes the status
that it builds, unless the one published last says the same, and conditions remember when they last
changed from one published status to the next, whatever fails in between.
-/
namespace NatsFleet

namespace Condition

/-- The transition time changes along with the status only. -/
theorem renewed_transition (old new : Condition) :
    (old.renewed new).lastTransitionTime =
      if (old.renewed new).status = old.status then old.lastTransitionTime
      else new.lastTransitionTime := by
  unfold renewed
  split
  · rename_i hne
    rw [if_neg (Ne.symm hne)]
  · exact (if_pos rfl).symm

def summary (c : Condition) : String × String × Option String := (c.type, c.status, c.reason)

theorem agrees_iff (a b : Condition) : agrees a b = true ↔ a.summary = b.summary := by
  simp only [agrees, summary, Bool.and_eq_true, beq_iff_eq, Prod.mk.injEq]
  constructor
  · rintro ⟨⟨htype, hstatus⟩, hreason⟩
    exact ⟨htype.symm, hstatus.symm, hreason.symm⟩
  · rintro ⟨htype, hstatus, hreason⟩
    exact ⟨⟨htype.symm, hstatus.symm⟩, hreason.symm⟩

end Condition

namespace ClusterStatus

def Paired (s : ClusterStatus) : Prop := s.conditions.map (·.type) = ["Ready", "Progressing"]

structure Agrees (p s : ClusterStatus) : Prop where
  phase : p.phase = s.phase
  size : p.size = s.size
  readySize : p.readySize = s.readySize
  version : p.version = s.version
  conditions : p.conditions.map Condition.summary = s.conditions.map Condition.summary

/-- The conditions of a status that was built at a moment go on from those of another one: they keep
their transition times where their statuses are the same, and have that moment where they are not. -/
def GoesOn (p s : ClusterStatus) (now : Timestamp) : Prop :=
  ∀ c ∈ p.conditions, ∀ c' ∈ s.conditions, c.type = c'.type →
    c'.lastTransitionTime = if c'.status = c.status then c.lastTransitionTime else some now.full

theorem Paired.conditions_eq {s : ClusterStatus} (h : s.Paired) :
    ∃ c q, s.conditions = [c, q] ∧ c.type = "Ready" ∧ q.type = "Progressing" := by
  obtain ⟨c, rest, hs, hc, hrest⟩ := List.map_eq_cons_iff.mp h
  obtain ⟨q, last, rfl, hq, hlast⟩ := List.map_eq_cons_iff.mp hrest
  obtain rfl := List.map_eq_nil_iff.mp hlast
  exact ⟨c, q, hs, hc, hq⟩

end ClusterStatus

namespace Pass

variable {id : Identity} {fuel : Nat} {m m' : Memory} {w : Work} {records : List PodRecord}
  {now : Timestamp}

/-- The two conditions of a status are dated by the moment at which it is built. -/
theorem built_conditions (w : Work) (records : List PodRecord) (m : Memory) (now : Timestamp) :
    ∃ ready progress : Condition, ready.type = "Ready" ∧ progress.type = "Progressing" ∧
      ready.lastTransitionTime = some now.full ∧ progress.lastTransitionTime = some now.full ∧
      (built w records m now).conditions =
        progress.set (ready.set ((m.status.map (·.conditions)).getD [])) :=
  ⟨_, _, rfl, rfl, rfl, rfl, rfl⟩

/-- The first status that is built has the two conditions. -/
theorem built_paired_of_none (h : m.status = none) : (built w records m now).Paired := by
  obtain ⟨ready, progress, hready, hprogress, -, -, hbuilt⟩ := built_conditions w records m now
  have hother : ready.type ≠ progress.type := by
    rw [hready, hprogress]
    decide
  have hpair : progress.set (ready.set []) = [ready, progress] := Condition.set_cons_of_ne [] hother
  rw [ClusterStatus.Paired, hbuilt, h, Option.map_none, Option.getD_none, hpair]
  simp only [List.map_cons, List.map_nil, hready, hprogress]

/-- A further status has the two conditions, and they go on from those published last. -/
theorem built_goesOn {p : ClusterStatus} (h : m.status = some p) (hp : p.Paired) :
    (built w records m now).Paired ∧ p.GoesOn (built w records m now) now := by
  obtain ⟨ready, progress, hready, hprogress, hreadyTime, hprogressTime, hbuilt⟩ :=
    built_conditions w records m now
  obtain ⟨c, q, hconditions, hc, hq⟩ := hp.conditions_eq
  have hnew : (built w records m now).conditions = [c.renewed ready, q.renewed progress] := by
    have hc' : (c.renewed ready).type ≠ progress.type := by
      rw [Condition.renewed_type (hc.trans hready.symm), hready, hprogress]
      decide
    rw [hbuilt, h, Option.map_some, Option.getD_some, hconditions,
      Condition.set_cons_of_eq _ (hc.trans hready.symm), Condition.set_cons_of_ne _ hc',
      Condition.set_cons_of_eq _ (hq.trans hprogress.symm)]
  have hreadyType := (Condition.renewed_type (hc.trans hready.symm)).trans hready
  have hprogressType := (Condition.renewed_type (hq.trans hprogress.symm)).trans hprogress
  refine ⟨?_, fun old hold new hnew' htype => ?_⟩
  · rw [ClusterStatus.Paired, hnew]
    simp only [List.map_cons, List.map_nil, hreadyType, hprogressType]
  · rw [hconditions, List.mem_pair] at hold
    rw [hnew, List.mem_pair] at hnew'
    -- Conditions of one type stand in the same place.
    rcases hold with rfl | rfl <;> rcases hnew' with rfl | rfl
    · rw [Condition.renewed_transition, hreadyTime]
    · rw [hc, hprogressType] at htype
      exact absurd htype (by decide)
    · rw [hq, hreadyType] at htype
      exact absurd htype (by decide)
    · rw [Condition.renewed_transition, hprogressTime]

/-- The comparison with the status published last is one of all that they say. -/
theorem unchanged_iff {p s : ClusterStatus} (hp : p.Paired) (hs : s.Paired) :
    unchanged (some p) s = true ↔ p.Agrees s := by
  obtain ⟨c, q, hpc, hc, hq⟩ := hp.conditions_eq
  obtain ⟨c', q', hsc, hc', hq'⟩ := hs.conditions_eq
  have hcross : c.summary ≠ q'.summary := by
    intro h
    have htype : c.type = q'.type := congrArg Prod.fst h
    rw [hc, hq'] at htype
    exact absurd htype (by decide)
  have hcross' : q.summary ≠ c'.summary := by
    intro h
    have htype : q.type = c'.type := congrArg Prod.fst h
    rw [hq, hc'] at htype
    exact absurd htype (by decide)
  have hsame : Condition.same p.conditions s.conditions = true ↔
      p.conditions.map Condition.summary = s.conditions.map Condition.summary := by
    rw [hpc, hsc]
    simp only [Condition.same, List.length_cons, List.length_nil, List.all_cons, List.all_nil,
      List.any_cons, List.any_nil, Bool.and_eq_true, Bool.or_eq_true, Condition.agrees_iff,
      hcross, hcross', List.map_cons, List.map_nil, List.cons.injEq, Bool.or_false, Bool.and_true,
      false_or, or_false, and_true, beq_self_eq_true, true_and]
  simp only [unchanged, Bool.and_eq_true, beq_iff_eq, hsame]
  constructor
  · rintro ⟨⟨⟨⟨hphase, hsize⟩, hready⟩, hversion⟩, hconditions⟩
    exact ⟨hphase, hsize, hready, hversion, hconditions⟩
  · rintro ⟨hphase, hsize, hready, hversion, hconditions⟩
    exact ⟨⟨⟨⟨hphase, hsize⟩, hready⟩, hversion⟩, hconditions⟩

def Answered.asked? (a : Answered) : Option ClusterStatus :=
  match a.request with
  | .patchStatus _ s => some s
  | _ => none

def Answered.published? (a : Answered) : Option ClusterStatus :=
  if a.isOk then a.asked? else none

/-- The statuses that have been published, each with the clock's reading when it was built, which is
that at the reply before; `t` is the reading before the first reply. -/
def publications (t : Timestamp) : List Answered → List (ClusterStatus × Timestamp)
  | [] => []
  | a :: rest => (a.published?.map fun s => (s, t)).toList ++ publications a.desk.now rest

def lastPublished (answers : List Answered) : Option ClusterStatus :=
  (answers.filterMap Answered.published?).getLast?

def Lists (answers : List Answered) : Prop :=
  ∃ a ∈ answers, a.request.method = .listPods ∧ a.isOk = true

instance (answers : List Answered) : Decidable (Lists answers) :=
  inferInstanceAs (Decidable (∃ a ∈ answers, a.request.method = .listPods ∧ a.isOk = true))

def Builds (id : Identity) (fuel : Nat) (published : Option ClusterStatus)
    (answers : List Answered) (s : ClusterStatus) : Prop :=
  ∃ (m : Memory) (spec : ClusterSpec) (r : Minutes id m spec) (a b : Answered),
    m.status = published ∧ r.Sound fuel ∧ answers = a :: b :: r.answered ∧ s = r.status

/-- Passes of a controller, one after the other and each to its end: what came back in each of them. -/
inductive Passes (id : Identity) (fuel : Nat) : Memory → List (List Answered) → Memory → Prop
  | nil (m : Memory) : Passes id fuel m [] m
  | cons {m m' m'' : Memory} {answers : List Answered} {later : List (List Answered)}
      (spec : ClusterSpec) (hpass : Runs id fuel (start id spec) m answers .finished m')
      (hlater : Passes id fuel m' later m'') : Passes id fuel m (answers :: later) m''

/-- The publications of two passes are those of the one, and then those of the other. -/
theorem publications_append (t : Timestamp) (front back : List Answered) :
    publications t (front ++ back) = publications t front ++ publications (lastTime t front) back := by
  induction front generalizing t with
  | nil => rfl
  | cons a front ih => rw [List.cons_append, publications, publications, ih, List.append_assoc,
      lastTime_cons]

theorem map_fst_publications (t : Timestamp) (answers : List Answered) :
    (publications t answers).map (·.1) = answers.filterMap Answered.published? := by
  induction answers generalizing t with
  | nil => rfl
  | cons a rest ih =>
    rw [publications, List.map_append, ih]
    cases h : a.published? with
    | none => rw [List.filterMap_cons_none h]; rfl
    | some s => rw [List.filterMap_cons_some h]; rfl

theorem asked?_eq_none {answers : List Answered} {requests : List Request}
    (hrequests : answers.map (·.request) = requests)
    (h : ∀ q ∈ requests, q.method ≠ .patchStatus) : ∀ a ∈ answers, a.asked? = none := by
  intro a ha
  have hmethod := h a.request (hrequests ▸ List.mem_map_of_mem ha)
  unfold Answered.asked?
  cases hrequest : a.request with
  | patchStatus name s => exact absurd (congrArg Request.method hrequest) hmethod
  | _ => rfl

/-- What was not asked for is not published. -/
theorem published?_eq_none {a : Answered} (h : a.asked? = none) : a.published? = none := by
  unfold Answered.published?
  split
  · exact h
  · rfl

theorem publications_silent {answers : List Answered} (t : Timestamp)
    (h : ∀ a ∈ answers, a.asked? = none) : publications t answers = [] := by
  induction answers generalizing t with
  | nil => rfl
  | cons a rest ih =>
    rw [publications, published?_eq_none (h a List.mem_cons_self),
      ih _ fun b hb => h b (List.mem_cons_of_mem a hb)]
    rfl

/-- The requests of a pass before its publication do not publish anything. -/
theorem Minutes.Sound.silent {spec : ClusterSpec} {r : Minutes id m spec} (h : r.Sound fuel) :
    ∀ a ∈ r.listing :: (r.removed ++ (r.written ++ r.created)), a.asked? = none := by
  have hwritten : ∀ q ∈ r.written.map (·.request), q.method ≠ .patchStatus := by
    intro q hq
    rw [h.written] at hq
    split at hq
    · cases hq
    · rw [List.mem_singleton.mp hq]
      rintro ⟨⟩
  have hlisting : r.listing.asked? = none := by
    unfold Answered.asked?
    rw [h.listing]
  intro a ha
  rcases List.mem_cons.mp ha with rfl | ha
  · exact hlisting
  · rcases List.mem_append.mp ha with ha | ha
    · exact asked?_eq_none h.removed (by simp [Request.method]) a ha
    · rcases List.mem_append.mp ha with ha | ha
      · exact asked?_eq_none rfl hwritten a ha
      · exact asked?_eq_none h.created (by simp [Request.method]) a ha

/-- The last request of a pass publishes a status, if there is one. -/
theorem publication_of {last : List Answered} {s : ClusterStatus} {same : Bool}
    (h : last.map (·.request) = if same then [] else [.patchStatus id.name s]) :
    last.filterMap Answered.asked? = (if same then [] else [s]) ∧
      ∀ t, publications t last = if last.any Answered.isOk then [(s, t)] else [] := by
  cases same with
  | true =>
    obtain rfl := List.map_eq_nil_iff.mp h
    exact ⟨rfl, fun t => rfl⟩
  | false =>
    obtain ⟨a, rest, rfl, ha, hrest⟩ := List.map_eq_cons_iff.mp h
    obtain rfl := List.map_eq_nil_iff.mp hrest
    have hasked : a.asked? = some s := by rw [Answered.asked?, ha]
    refine ⟨by rw [List.filterMap_cons_some hasked]; rfl, fun t => ?_⟩
    cases hok : a.isOk <;> simp [publications, Answered.published?, hok, hasked]

structure Publishes (id : Identity) (fuel : Nat) (m : Memory) (answers : List Answered)
    (m' : Memory) (s : ClusterStatus) (now : Timestamp) : Prop where
  builds : Builds id fuel m.status answers s
  eq_built : ∃ w records, s = built w records m now
  asked : answers.filterMap Answered.asked? = if unchanged m.status s then [] else [s]
  published : (∀ t, publications t answers = []) ∧ m'.status = m.status ∨
    (∀ t, publications t answers = [(s, now)]) ∧ m'.status = some s

/-- A pass whose listing failed has not got past it. -/
theorem not_lists {spec : ClusterSpec} {a b c : Answered} {e : Failure}
    (hservices : [a.request, b.request] = (services id spec).map .createService)
    (hreply : c.reply = .error e) : ¬ Lists [a, b, c] := by
  rintro ⟨x, hx, hmethod, hok⟩
  have hrequests : [a, b].map (·.request) = (services id spec).map .createService := hservices
  rcases List.mem_append.mp (show x ∈ [a, b] ++ [c] from hx) with hx | hx
  · have hmem : x.request ∈ (services id spec).map .createService :=
      hrequests ▸ List.mem_map_of_mem hx
    obtain ⟨service, -, hservice⟩ := List.mem_map.mp hmem
    rw [← hservice] at hmethod
    cases hmethod
  · rw [List.mem_singleton.mp hx, Answered.isOk_error hreply] at hok
    cases hok

/-- Nothing is published in a pass before its publication. -/
theorem Minutes.Sound.split_publication {spec spec₀ : ClusterSpec} {r : Minutes id m spec}
    (h : r.Sound fuel) {a b : Answered}
    (hservices : [a.request, b.request] = (services id spec₀).map .createService) :
    ∃ front, a :: b :: r.answered = front ++ r.published ∧ (∀ x ∈ front, x.asked? = none) ∧
      ∀ t, lastTime t front = r.moment := by
  have hrequests : [a, b].map (·.request) = (services id spec₀).map .createService := hservices
  let front := [a, b] ++ (r.listing :: (r.removed ++ (r.written ++ r.created)))
  have hanswers : a :: b :: r.answered = front ++ r.published := by
    simp only [front, Minutes.answered, List.cons_append, List.nil_append, List.append_assoc]
  refine ⟨front, hanswers, fun x hx => ?_, fun t => rfl⟩
  rcases List.mem_append.mp hx with hx | hx
  · exact asked?_eq_none hrequests (by simp [Request.method]) x hx
  · exact h.silent x hx

/-- A pass asks to publish its status unless that says nothing new. -/
theorem Minutes.Sound.asks_status {spec spec₀ : ClusterSpec} {r : Minutes id m spec}
    (h : r.Sound fuel) {a b : Answered}
    (hservices : [a.request, b.request] = (services id spec₀).map .createService) :
    (a :: b :: r.answered).filterMap Answered.asked? =
      if unchanged m.status r.status then [] else [r.status] := by
  obtain ⟨front, hanswers, hfront, -⟩ := h.split_publication hservices
  rw [hanswers, List.filterMap_append, List.filterMap_eq_nil_iff.mpr hfront, List.nil_append]
  exact (publication_of h.published).1

/-- A pass that lists the pods builds one status, and publishes it once at most. -/
theorem pass_publishes {spec : ClusterSpec} {answers : List Answered}
    (h : Runs id fuel (start id spec) m answers .finished m') :
    (¬ Lists answers ∧ answers.filterMap Answered.asked? = [] ∧
        (∀ t, publications t answers = []) ∧ m'.status = m.status) ∨
      ∃ s now, Publishes id fuel m answers m' s now := by
  obtain ⟨a, b, rest, rfl, hservices, hrest⟩ := runs_start h
  have hrequests : [a, b].map (·.request) = (services id spec).map .createService := hservices
  have hopening : ∀ x ∈ [a, b], x.asked? = none :=
    asked?_eq_none hrequests (by simp [Request.method])
  rcases minutes_of_listing hrest with ⟨c, e, rfl, hrequest, hreply, rfl⟩ | ⟨r, hr, rfl, rfl⟩
  · -- The listing has failed, and the pass is over.
    have hsilent : ∀ x ∈ [a, b, c], x.asked? = none := by
      intro x hx
      rcases List.mem_append.mp (show x ∈ [a, b] ++ [c] from hx) with hx | hx
      · exact hopening x hx
      · rw [List.mem_singleton.mp hx, Answered.asked?, hrequest]
    exact .inl ⟨not_lists hservices hreply, List.filterMap_eq_nil_iff.mpr hsilent,
      fun t => publications_silent t hsilent, rfl⟩
  · obtain ⟨front, hanswers, hfront, hmoment⟩ := hr.split_publication hservices
    have hwhole : ∀ t, publications t (a :: b :: r.answered) =
        if r.published.any Answered.isOk then [(r.status, r.moment)] else [] := by
      intro t
      rw [hanswers, publications_append, publications_silent t hfront, List.nil_append, hmoment]
      exact (publication_of hr.published).2 _
    refine .inr ⟨r.status, r.moment, ⟨m, _, r, a, b, rfl, hr, rfl, rfl⟩, ⟨_, _, rfl⟩,
      hr.asks_status hservices, ?_⟩
    · by_cases hok : r.published.any Answered.isOk = true
      · refine .inr ⟨fun t => (hwhole t).trans (if_pos hok), ?_⟩
        rw [Minutes.after, if_pos hok]
      · refine .inl ⟨fun t => (hwhole t).trans (if_neg hok), ?_⟩
        rw [Minutes.after, if_neg hok]

/-- What a controller remembers is the last of the statuses that have been published, each of which
goes on from the one before. -/
structure History (m : Memory) (past : List (ClusterStatus × Timestamp)) : Prop where
  status : m.status = past.getLast?.map (·.1)
  paired : ∀ p ∈ past, p.1.Paired
  goesOn : past.IsChain fun p q => p.1.GoesOn q.1 q.2

variable {past : List (ClusterStatus × Timestamp)} {s : ClusterStatus} {answers : List Answered}

/-- Whatever status is built next has the two conditions, and may be published next. -/
theorem History.next (h : History m past) (hbuilt : ∃ w records, s = built w records m now) :
    s.Paired ∧ (past ++ [(s, now)]).IsChain fun p q => p.1.GoesOn q.1 q.2 := by
  obtain ⟨w, records, rfl⟩ := hbuilt
  cases hlast : past.getLast? with
  | none =>
    have hnone : m.status = none := by rw [h.status, hlast]; rfl
    obtain rfl := List.getLast?_eq_none_iff.mp hlast
    exact ⟨built_paired_of_none hnone, List.isChain_singleton _⟩
  | some p =>
    have hsome : m.status = some p.1 := by rw [h.status, hlast]; rfl
    have hp : p.1.Paired := h.paired p (List.mem_of_getLast? hlast)
    have hbuilt : (built w records m now).Paired ∧ p.1.GoesOn (built w records m now) now :=
      built_goesOn hsome hp
    refine ⟨hbuilt.1, List.isChain_append.mpr ⟨h.goesOn, List.isChain_singleton _, ?_⟩⟩
    intro q hq r hr
    obtain rfl : p = q := Option.some.inj (hlast.symm.trans hq)
    obtain rfl : (built w records m now, now) = r := Option.some.inj hr
    exact hbuilt.2

theorem History.of_append_nil (h : History m past) (hstatus : m'.status = m.status) :
    History m' (past ++ []) := by
  rw [List.append_nil]
  exact ⟨hstatus.trans h.status, h.paired, h.goesOn⟩

/-- A pass goes on with the history of what has been published. -/
theorem Publishes.history (hpass : Publishes id fuel m answers m' s now) (h : History m past)
    (t : Timestamp) : History m' (past ++ publications t answers) := by
  obtain ⟨hpaired, hgoesOn⟩ := h.next hpass.eq_built
  rcases hpass.published with ⟨hnone, hstatus⟩ | ⟨hone, hstatus⟩
  · rw [hnone t]
    exact h.of_append_nil hstatus
  · rw [hone t]
    refine ⟨by rw [hstatus, List.getLast?_concat]; rfl, fun p hp => ?_, hgoesOn⟩
    rcases List.mem_append.mp hp with hp | hp
    · exact h.paired p hp
    · rw [List.mem_singleton.mp hp]
      exact hpaired

/-- A whole pass keeps the history of what has been published. -/
theorem runs_history {spec : ClusterSpec} (hpass : Runs id fuel (start id spec) m answers .finished m')
    (h : History m past) (t : Timestamp) : History m' (past ++ publications t answers) := by
  rcases pass_publishes hpass with ⟨-, -, hnone, hstatus⟩ | ⟨s, now, hpublishes⟩
  · rw [hnone t]
    exact h.of_append_nil hstatus
  · exact hpublishes.history h t

theorem Passes.history {passes : List (List Answered)} (hpasses : Passes id fuel m passes m')
    (h : History m past) (t : Timestamp) : History m' (past ++ publications t passes.flatten) := by
  induction hpasses generalizing past t with
  | nil m => exact h.of_append_nil rfl
  | @cons m m' m'' answers later spec hpass hlater ih =>
    have hnext := ih (runs_history hpass h t) (lastTime t answers)
    rw [List.append_assoc, ← publications_append] at hnext
    exact hnext

/-- What a controller that has just been made remembers. -/
theorem history_empty : History {} [] :=
  ⟨rfl, fun _ hp => absurd hp List.not_mem_nil, List.isChain_nil⟩

/-- The status that is remembered is the one that was published last. -/
theorem Passes.status {passes : List (List Answered)} (h : Passes id fuel {} passes m) :
    m.status = lastPublished passes.flatten := by
  have hhistory := h.history history_empty ⟨0, 0⟩
  rw [List.nil_append] at hhistory
  rw [hhistory.status, ← List.getLast?_map, map_fst_publications]
  rfl

theorem Passes.split {front back : List (List Answered)}
    (h : Passes id fuel m (front ++ back) m') :
    ∃ m₁, Passes id fuel m front m₁ ∧ Passes id fuel m₁ back m' := by
  induction front generalizing m with
  | nil => exact ⟨m, .nil m, h⟩
  | cons answers front ih =>
    cases h with
    | cons spec hpass hlater =>
      obtain ⟨m₁, hfront, hback⟩ := ih hlater
      exact ⟨m₁, .cons spec hpass hfront, hback⟩

/-- What a pass asks to publish has the two conditions. -/
theorem asked_paired {spec : ClusterSpec} (hpass : Runs id fuel (start id spec) m answers .finished m')
    (h : History m past) {a : Answered} (ha : a ∈ answers) (hasked : a.asked? = some s) :
    s.Paired := by
  have hmem : s ∈ answers.filterMap Answered.asked? := List.mem_filterMap.mpr ⟨a, ha, hasked⟩
  rcases pass_publishes hpass with ⟨-, hnone, -, -⟩ | ⟨s', now, hpublishes⟩
  · rw [hnone] at hmem
    cases hmem
  · rw [hpublishes.asked] at hmem
    split at hmem
    · cases hmem
    · rw [List.mem_singleton.mp hmem]
      exact (h.next hpublishes.eq_built).1

/-- A run goes on with the reply to the request at which it stands. -/
theorem Runs.snoc {stage stage' : Stage} {a : Answered} (h : Runs id fuel stage m answers stage' m')
    (hrequest : stage'.request? id = some a.request) (hmemory : a.desk.memory = m') :
    Runs id fuel stage m (answers ++ [a]) (resume id fuel stage' a.reply a.desk).1
      (resume id fuel stage' a.reply a.desk).2.memory := by
  induction h with
  | refl stage m => exact .reply hrequest hmemory (.refl _ _)
  | reply hrequest' hmemory' hrest ih => exact .reply hrequest' hmemory' (ih hrequest hmemory)

/-- The memory at the start of one of several passes, and the pass itself. -/
theorem Passes.pass_at {front back : List (List Answered)}
    (h : Passes id fuel {} (front ++ answers :: back) m) :
    ∃ m₁ m₂ spec, Passes id fuel {} front m₁ ∧
      Runs id fuel (start id spec) m₁ answers .finished m₂ := by
  obtain ⟨m₁, hfront, hback⟩ := h.split
  cases hback with
  | @cons _ m₂ _ _ _ spec hpass hlater => exact ⟨m₁, m₂, spec, hfront, hpass⟩

/-- A status is published unless it agrees with the one that has been published last. -/
theorem unchanged_published {published : Option ClusterStatus}
    (hpublished : ∀ p, published = some p → p.Paired) (hs : s.Paired) :
    unchanged published s = true ↔ ∃ p, published = some p ∧ p.Agrees s := by
  cases published with
  | none =>
    constructor
    · rintro ⟨⟩
    · rintro ⟨p, ⟨⟩, -⟩
  | some p =>
    rw [unchanged_iff (hpublished p rfl) hs]
    constructor
    · exact fun hagrees => ⟨p, rfl, hagrees⟩
    · rintro ⟨q, hq, hagrees⟩
      exact Option.some.inj hq ▸ hagrees

theorem History.published_paired (h : History m past) {p : ClusterStatus} (hp : m.status = some p) :
    p.Paired := by
  rw [h.status] at hp
  obtain ⟨q, hq, rfl⟩ := Option.map_eq_some_iff.mp hp
  exact h.paired q (List.mem_of_getLast? hq)

/-- Over all passes of a controller, whatever they list, are told and are answered: each status that
they ask to publish has the conditions `Ready` and `Progressing`; a pass that gets past its listing
asks to publish the status that it builds unless that agrees with the one published last, however
many passes there were since, so it tries again after a failure; and conditions go on from one
published status to the next. -/
theorem statuses_follow {passes : List (List Answered)} (h : Passes id fuel {} passes m) :
    (∀ answers ∈ passes, ∀ a ∈ answers, ∀ s, a.asked? = some s → s.Paired) ∧
      (∀ spec answers s m', Runs id fuel (start id spec) m answers (.publishing s) m' → s.Paired) ∧
      (∀ before since answers after, passes = before ++ (since ++ answers :: after) →
        since.flatten.filterMap Answered.published? = [] → Lists answers →
        ∃ s, Builds id fuel (lastPublished before.flatten) answers s ∧
          ((∃ p, lastPublished before.flatten = some p ∧ p.Agrees s) →
            answers.filterMap Answered.asked? = []) ∧
          ((¬ ∃ p, lastPublished before.flatten = some p ∧ p.Agrees s) →
            answers.filterMap Answered.asked? = [s])) ∧
      ∀ t, (publications t passes.flatten).IsChain fun p q => p.1.GoesOn q.1 q.2 := by
  refine ⟨?_, ?_, ?_, fun t => ?_⟩
  · intro answers hanswers a ha s hasked
    obtain ⟨front, back, rfl⟩ := List.append_of_mem hanswers
    obtain ⟨m₁, m₂, spec, hfront, hpass⟩ := h.pass_at
    exact asked_paired hpass (hfront.history history_empty ⟨0, 0⟩) ha hasked
  · intro spec answers s m' hruns
    -- The request is on its way: any reply to it ends the pass.
    let d : Desk := { spec := spec, memory := m', draws := ⟨fun _ => 0, 0⟩, now := ⟨0, 0⟩ }
    let a : Answered := ⟨.patchStatus id.name s, .ok [], d⟩
    have hpass : Runs id fuel (start id spec) m (answers ++ [a]) .finished
        { m' with status := some s } := hruns.snoc rfl rfl
    have ha : a ∈ answers ++ [a] := List.mem_append_right _ List.mem_cons_self
    exact asked_paired hpass (h.history history_empty ⟨0, 0⟩) ha rfl
  · intro before since answers after hpasses hnone hlists
    rw [← List.append_assoc] at hpasses
    subst hpasses
    obtain ⟨m₁, m₂, spec, hfront, hpass⟩ := h.pass_at
    have hhistory := hfront.history history_empty ⟨0, 0⟩
    -- Nothing has been published since, so the status published last is still the same.
    have hlast : m₁.status = lastPublished before.flatten := by
      rw [hfront.status, lastPublished, List.flatten_append, List.filterMap_append, hnone,
        List.append_nil]
      rfl
    rcases pass_publishes hpass with ⟨hfailed, -⟩ | ⟨s, now, hpublishes⟩
    · exact absurd hlists hfailed
    · have hunchanged := unchanged_published (fun p hp => hhistory.published_paired hp)
        (hhistory.next hpublishes.eq_built).1
      rw [hlast] at hunchanged
      refine ⟨s, hlast ▸ hpublishes.builds, fun hagrees => ?_, fun hnew => ?_⟩
      · rw [hpublishes.asked, hlast, if_pos (hunchanged.mpr hagrees)]
      · rw [hpublishes.asked, hlast, if_neg fun hsame => hnew (hunchanged.mp hsame)]
  · have hhistory := h.history history_empty t
    rw [List.nil_append] at hhistory
    exact hhistory.goesOn

def replay (id : Identity) (fuel : Nat) (spec : ClusterSpec) :
    List (Reply × Timestamp) → Stage → Memory → List Answered × Stage × Memory
  | [], stage, m => ([], stage, m)
  | (reply, now) :: rest, stage, m =>
    match stage.request? id with
    | none => ([], stage, m)
    | some request =>
      let d : Desk := { spec := spec, memory := m, draws := ⟨fun n => n, 0⟩, now := now }
      let next := resume id fuel stage reply d
      let later := replay id fuel spec rest next.1 next.2.memory
      (⟨request, reply, d⟩ :: later.1, later.2)

/-- A replay is a run. -/
theorem replay_runs (id : Identity) (fuel : Nat) (spec : ClusterSpec)
    (replies : List (Reply × Timestamp)) (stage : Stage) (m : Memory) :
    Runs id fuel stage m (replay id fuel spec replies stage m).1
      (replay id fuel spec replies stage m).2.1 (replay id fuel spec replies stage m).2.2 := by
  induction replies generalizing stage m with
  | nil => exact .refl stage m
  | cons reply rest ih =>
    unfold replay
    split
    · exact .refl stage m
    · rename_i request hrequest
      exact .reply hrequest rfl (ih _ _)

def demo : Identity := ⟨"demo", "default", none⟩

def serving : Pod :=
  { Manifest.pod demo {} "demo-bcdfg" with
    status := some { phase := some "Running", conditions := some [⟨"Ready", "True"⟩] } }

def replies (listed : List Pod) (seconds : Int) (publication : Reply) : List (Reply × Timestamp) :=
  [.ok [], .ok [], .ok listed].map (fun reply => (reply, ⟨seconds, 0⟩)) ++
    (if listed.isEmpty then [(.ok [], ⟨seconds, 0⟩), (.ok [], ⟨seconds, 0⟩)] else []) ++
    [(publication, ⟨seconds, 0⟩)]

def tale : List (List Answered × Stage × Memory) :=
  let first := replay demo 9 {} (replies [] 10 (.ok [])) (start demo {}) {}
  let second := replay demo 9 {} (replies [serving] 20 (.error .shutdown)) (start demo {}) first.2.2
  let third := replay demo 9 {} (replies [serving] 30 (.ok [])) (start demo {}) second.2.2
  let fourth := replay demo 9 {} (replies [serving] 40 (.ok [])) (start demo {}) third.2.2
  [first, second, third, fourth]

theorem tale_passes :
    Passes demo 9 {} (tale.map (·.1)) (tale.map (·.2.2))[3] := by
  have hover : ∀ pass ∈ tale, pass.2.1.isFinished = true := by decide +kernel
  have hpass (replies : List (Reply × Timestamp)) (m : Memory)
      (h : replay demo 9 {} replies (start demo {}) m ∈ tale) :
      Runs demo 9 (start demo {}) m (replay demo 9 {} replies (start demo {}) m).1 .finished
        (replay demo 9 {} replies (start demo {}) m).2.2 := by
    rw [← Stage.eq_finished (hover _ h)]
    exact replay_runs demo 9 {} replies (start demo {}) m
  exact .cons {} (hpass _ _ (.head _)) (.cons {} (hpass _ _ (.tail _ (.head _)))
    (.cons {} (hpass _ _ (.tail _ (.tail _ (.head _))))
      (.cons {} (hpass _ _ (.tail _ (.tail _ (.tail _ (.head _))))) (.nil _))))

/-- In the tale the pod's readiness is published by the third pass, with the time of that pass. -/
theorem statuses_follow_retried :
    let passes := tale.map (·.1)
    Passes demo 9 {} passes (tale.map (·.2.2))[3] ∧
      (∃ s, Builds demo 9 (lastPublished passes[0]) passes[2] s ∧
        passes[2].filterMap Answered.asked? = [s]) ∧
      (publications ⟨0, 0⟩ passes.flatten).IsChain (fun p q => p.1.GoesOn q.1 q.2) ∧
      (publications ⟨0, 0⟩ passes.flatten).map (fun p => (p.1.phase, p.2)) =
        [(.creating, ⟨10, 0⟩), (.running, ⟨30, 0⟩)] := by
  intro passes
  obtain ⟨-, -, hasks, hgoesOn⟩ := statuses_follow tale_passes
  refine ⟨tale_passes, ?_, hgoesOn _, by decide +kernel⟩
  have hnone : [passes[1]].flatten.filterMap Answered.published? = [] :=
    List.isEmpty_iff.mp (by decide +kernel)
  obtain ⟨s, hbuilds, hsame, hnew⟩ := hasks [passes[0]] [passes[1]] passes[2] [passes[3]] rfl hnone
    (by decide +kernel)
  have hasked : passes[2].filterMap Answered.asked? ≠ [] :=
    mt List.isEmpty_iff.mpr (by decide +kernel)
  have hfirst : [passes[0]].flatten = passes[0] := List.flatten_singleton
  rw [hfirst] at hbuilds
  exact ⟨s, hbuilds, hnew fun hagrees => hasked (hsame hagrees)⟩

end Pass
end NatsFleet
