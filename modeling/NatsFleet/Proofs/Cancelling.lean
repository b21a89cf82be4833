import NatsFleet.Proofs.Diary
import NatsFleet.Proofs.Shutdown

/-!
What is left of a controller once it is cancelled: the pass in flight goes on as if nothing had happened,
and then the loop returns.
-/
namespace NatsFleet

def Controller.revive (c : Controller) : Controller := { c with cancelled := false }

namespace Fleet

def revive (f : Fleet) : Fleet :=
  { f with cancelled := false, controllers := f.controllers.map Controller.revive }

def revived (r : Option Standing × Fleet) : Option Standing × Fleet := (r.1, r.2.revive)

variable {f : Fleet} {i n : Nat} {c : Controller} {whole : Bool} {stage : Pass.Stage}

theorem revive_controller? (f : Fleet) (n : Nat) :
    f.revive.controller? n = (f.controller? n).map Controller.revive := List.getElem?_map

/-- A reply is read as if nobody had stopped the controller. -/
theorem revive_resume (f : Fleet) (n : Nat) (c : Controller) (stage : Pass.Stage) (reply : Reply) :
    f.revive.resume n c.revive stage reply =
      ((f.resume n c stage reply).1, (f.resume n c stage reply).2.revive) := by
  have hset (memory : Memory) : (f.controllers.map Controller.revive).set n
      { c.revive with memory := memory } =
        (f.controllers.set n { c with memory := memory }).map Controller.revive := by
    rw [List.map_set]
    rfl
  simp only [resume, revive, hset]
  rfl

/-- What a pass does next, however often it has been called before. -/
theorem drive_eq (f : Fleet) (n : Nat) (whole : Bool) (stage : Pass.Stage) {c : Controller}
    (hc : f.controller? n = some c) {request : Request}
    (hrequest : stage.request? c.identity = some request) : f.drive n whole stage =
      if !whole && request.method = .listPods then (none, f)
      else
        let place := c.key.namespaceName
        let taken := (f.platform place).take request.method
        if taken.1.delay = 0 then
          match taken.2.conclude f.now request taken.1.ending with
          | (none, p) => (some ⟨stage, none⟩, f.setPlatform place p)
          | (some reply, p) =>
            let next := (f.setPlatform place p).resume n c stage reply
            next.2.drive n whole next.1
        else
          (some ⟨stage, some ⟨request, taken.1.ending, f.now + taken.1.delay⟩⟩,
            f.setPlatform place taken.2) := by
  rw [drive.eq_def]
  simp only [hc]
  split
  · rename_i h
    cases h.symm.trans hrequest
  · rename_i request' h
    obtain rfl : request' = request := Option.some.inj (h.symm.trans hrequest)
    rfl

/-- A pass goes on in the same way whether its controller is cancelled or not. -/
theorem drive_revive (f : Fleet) (n : Nat) (whole : Bool) (stage : Pass.Stage) :
    f.revive.drive n whole stage = revived (f.drive n whole stage) := by
  -- Neither a request nor what is made of its reply depends on who is cancelled.
  have hrevived {f : Fleet} {c : Controller} (hc : f.controller? n = some c) :
      f.revive.controller? n = some c.revive := by rw [revive_controller?, hc]; rfl
  fun_induction drive f n whole stage with
  | case1 f stage hc =>
    rw [drive.eq_def]
    simp only [revive_controller?, hc, Option.map_none]
    rfl
  | case2 f c hc h =>
    rw [drive.eq_def]
    simp only [hrevived hc]
    rfl
  | case3 f stage c hc h hnone =>
    rename_i hunfinished
    rw [drive.eq_def]
    simp only [hrevived hc]
    split
    · split
      · exact (hunfinished hnone rfl HEq.rfl).elim
      · rfl
    · rename_i request hrequest
      cases hnone.symm.trans hrequest
  | case4 f stage c hc request hrequest hwhole =>
    rw [drive_eq _ n whole stage (hrevived hc) hrequest, if_pos hwhole]
    rfl
  | case5 f stage c hc request hrequest hwhole place taken hdelay p hreply =>
    have htaken : (f.revive.platform c.revive.key.namespaceName).take request.method = taken := rfl
    have hstill : taken.2.conclude f.revive.now request taken.1.ending = (none, p) := hreply
    rw [drive_eq _ n whole stage (hrevived hc) hrequest, if_neg hwhole]
    simp only [htaken, hdelay, if_true, hstill]
    rfl
  | case6 f stage c hc request hrequest hwhole place taken hdelay reply p hreply next =>
    rename_i ih
    have htaken : (f.revive.platform c.revive.key.namespaceName).take request.method = taken := rfl
    have hanswered : taken.2.conclude f.revive.now request taken.1.ending = (some reply, p) := hreply
    have hresume : (f.revive.setPlatform c.revive.key.namespaceName p).resume n c.revive stage reply =
        (next.1, next.2.revive) := revive_resume (f.setPlatform place p) n c stage reply
    rw [drive_eq _ n whole stage (hrevived hc) hrequest, if_neg hwhole]
    simp only [htaken, hdelay, if_true, hanswered, hresume]
    exact ih
  | case7 f stage c hc request hrequest hwhole place taken hdelay =>
    rw [drive_eq _ n whole stage (hrevived hc) hrequest, if_neg hwhole]
    exact if_neg hdelay

theorem land_revive (f : Fleet) (n : Nat) (whole : Bool) (s : Standing) :
    f.revive.land n whole s = revived (f.land n whole s) := by
  unfold land
  rw [revive_controller?]
  cases s.flight with
  | none => rfl
  | some flight =>
    cases f.controller? n with
    | none => rfl
    | some c =>
      dsimp only [Option.map_some]
      by_cases hearly : f.now < flight.due
      · rw [if_pos hearly]
        exact if_pos hearly
      · have hplatform : f.revive.platform c.revive.key.namespaceName =
            f.platform c.key.namespaceName := rfl
        have hnow : f.revive.now = f.now := rfl
        rw [hplatform, hnow, if_neg hearly, if_neg hearly]
        cases (f.platform c.key.namespaceName).conclude f.now flight.request flight.ending with
        | mk reply p =>
          cases reply with
          | none => rfl
          | some reply =>
            have hresume := revive_resume (f.setPlatform c.key.namespaceName p) n c s.stage reply
            have hplace : f.revive.setPlatform c.revive.key.namespaceName p =
                (f.setPlatform c.key.namespaceName p).revive := rfl
            dsimp only
            rw [hplace, hresume]
            exact drive_revive _ n whole _

/-! ## The loop of a cancelled controller -/

variable {first : Bool} {state : Loop}

/-- Where the loop of a cancelled controller stands when its pass has got somewhere. -/
def lastly (arrived : Option Standing) (tick : Option Nat) : Loop :=
  arrived.elim .finished (.passing · tick)

/-- The loop of a cancelled controller goes on to the end of its pass, and no further. -/
theorem pollLoop_lastly (hcancelled : f.isCancelled n = true) (first : Bool) (s : Standing)
    (tick : Option Nat) :
    (f.pollLoop n first (.passing s tick)).1 = lastly (f.land n true s).1 tick := by
  have hland := land_board f n true s
  unfold pollLoop
  dsimp only
  split
  · rename_i s' g heq
    rw [heq]
    rfl
  · rename_i g heq
    rw [heq] at hland ⊢
    rw [← isCancelled_congr hland] at hcancelled
    exact afterPass_cancelled hcancelled tick

/-- The end of a loop is made known. -/
theorem step_loop_done (hc : f.controller? n = some c)
    (ht : f.tasks[i]? = some (.loop n true state)) (hstate : state.isFinished = false)
    (hfinished : (f.pollLoop n true state).1 = .finished) :
    ∃ c', (f.step i).controller? n = some c' ∧ c'.done = true := by
  have hcard := board_card hc
  have hboard := step_loop_board ht hstate
  rw [hfinished] at hboard
  have hdone : ((f.step i).board.cards[n]?).any Card.done = true := by
    have hcards : (f.step i).board.cards[n]? = (f.board.change n Card.finish).cards[n]? := by
      rw [hboard]
      rfl
    rw [hcards, Board.cards_change, if_pos rfl, hcard]
    rfl
  rw [any_card (f.step i) n (Q := Controller.done) fun _ => rfl] at hdone
  obtain ⟨c', hc', hdone'⟩ := (Option.any_eq_true _ _).mp hdone
  exact ⟨c', hc', hdone'⟩

end Fleet

namespace Diary

variable {d d' : Diary} {f : Fleet} {i n : Nat} {c : Controller}

/-- The passes of a controller are recorded while its loop goes on, and at no other time. -/
theorem step_rounds (d : Diary) (i n : Nat) : (d.step i).rounds n = d.rounds n ∨
    ∃ first state, d.fleet.tasks[i]? = some (.loop n first state) ∧ (d.step i).rounds n =
      (d.fleet.recordLoop (d.history n).length n first state (d.rounds n)).2 := by
  cases ht : d.fleet.tasks[i]? with
  | none => exact .inl (by simp only [step, ht])
  | some t =>
    cases t with
    | loop m first state =>
      by_cases hm : n = m
      · subst hm
        exact .inr ⟨first, state, rfl, by simp only [step, ht, Function.update_self]⟩
      · exact .inl (by simp only [step, ht, Function.update_of_ne hm])
    | _ => exact .inl (by simp only [step, ht])

def begun (d : Diary) (n : Nat) : List Read := (d.rounds n).map (·.opening)

/-- Once a controller is cancelled, whatever happens begins no pass of it, but for the first one. -/
theorem Kept.move_begun (hkept : d.Kept) (hhalted : d.fleet.board.Halted n) (hmove : d.Move d') :
    d'.begun n = d.begun n ∨ d.begun n = [] ∧ (d'.begun n).length = 1 := by
  cases hmove with
  | prompt h => exact .inl rfl
  | update m spec => exact .inl rfl
  | stop m => exact .inl rfl
  | progress i =>
    rcases d.step_rounds i n with hsame | ⟨first, state, ht, hrounds⟩
    · exact .inl (congrArg (List.map _) hsame)
    · obtain ⟨c, hc, hcancelled⟩ := Fleet.board_halted.mp hhalted
      obtain ⟨-, w, -, hheeds⟩ := hkept.heeds i n first state (Fleet.loopAt_eq_some.mpr ht)
      have hopenings := congrArg (List.map Sight.opening) hrounds
      by_cases hborn : state = .unborn
      · subst hborn
        have hnone : d.rounds n = [] := by
          generalize d.rounds n = sights at hheeds
          cases hheeds
          rfl
        have hone := Fleet.recordLoop_unborn_cancelled hc hcancelled (d.history n).length first
          (d.rounds n)
        refine .inr ⟨by rw [Diary.begun, hnone]; rfl, ?_⟩
        rw [Diary.begun, hopenings, hone, hnone]
        rfl
      · have hnone := Fleet.recordLoop_cancelled hc hcancelled (d.history n).length first hborn
          (d.rounds n)
        exact .inl (hopenings.trans hnone)

/-- A controller that has been stopped begins no pass, unless its loop has not had a turn: then it begins
one. -/
theorem runs_begun (hkept : d.Kept) (hhalted : d.fleet.board.Halted n)
    (hruns : Relation.ReflTransGen Move d d') : d'.fleet.board.Halted n ∧
      (d'.begun n = d.begun n ∨ d.begun n = [] ∧ (d'.begun n).length = 1) := by
  -- Either no pass has begun yet since, or the first one has, and then there is no second first one.
  induction hruns with
  | refl => exact ⟨hhalted, .inl rfl⟩
  | @tail d₁ d₂ hruns hmove ih =>
    obtain ⟨hhalted', hbegun⟩ := ih
    have hkept' := runs_kept hruns hkept
    refine ⟨(hmove.sequel hkept').halted n hhalted', ?_⟩
    rcases hkept'.move_begun hhalted' hmove with hsame | ⟨hnone, hone⟩
    · rw [hsame]
      exact hbegun
    · rcases hbegun with hbefore | ⟨-, hbefore⟩
      · exact .inr ⟨hbefore.symm.trans hnone, hone⟩
      · rw [hnone] at hbefore
        cases hbefore

/-- Once a controller is cancelled, whatever happens from then on: none of its passes begins, except that a
loop that has not had a turn yet makes its first one. A pass in flight goes on as if nothing were
cancelled. When the loop goes on, a request keeps it waiting or it has returned, and made that known:
it returns as soon as the pass in flight is over, and at once if it is in none, even if a tick is due or
another spec has been given. -/
theorem cancelled_returns {f : Fleet} (hfresh : f.Fresh) (hperiod : 0 < f.settings.interval)
    (hruns : Relation.ReflTransGen Move { fleet := f } d) (hc : d.fleet.controller? n = some c)
    (hcancelled : c.cancelled = true) :
    ∃ (i : Nat) (state : Loop), d.fleet.tasks[i]? = some (.loop n true state) ∧
      (∀ (j : Nat) (first : Bool) (state' : Loop),
        d.fleet.tasks[j]? = some (.loop n first state') → j = i) ∧
      (∀ d', Relation.ReflTransGen Move d d' → d'.begun n = d.begun n ∨
        state = .unborn ∧ d.begun n = [] ∧ (d'.begun n).length = 1) ∧
      (∀ s, d.fleet.revive.land n true s = Fleet.revived (d.fleet.land n true s)) ∧
      ∃ state', (d.step i).fleet.tasks[i]? = some (.loop n true state') ∧
        state'.rests d.fleet.now = true ∧
        (∀ s tick, state = .passing s tick → state' = Fleet.lastly (d.fleet.land n true s).1 tick) ∧
        (∀ tick, state = .waiting tick → i ∈ d.fleet.readyTasks ∧ state' = .finished) ∧
        (state ≠ .finished → state' = .finished →
          ∃ c', (d.step i).fleet.controller? n = some c' ∧ c'.done = true) := by
  have hkept := runs_kept hruns (kept_of_fresh hfresh (Nat.ne_of_gt hperiod))
  have hends : d.fleet.isCancelled n = true := (Fleet.isCancelled_eq hc).trans hcancelled
  have hhalted : d.fleet.board.Halted n := Fleet.board_halted.mpr ⟨c, hc, hcancelled⟩
  obtain ⟨i, state, ht, hsole, hheeds⟩ := hkept.loop hc
  refine ⟨i, state, ht, hsole, fun d' hmore => ?_, fun s => Fleet.land_revive d.fleet n true s, _,
    step_loop_task ht, Fleet.pollLoop_rests hends true state, ?_, ?_, ?_⟩
  · rcases (runs_begun hkept hhalted hmore).2 with hsame | ⟨hnone, hone⟩
    · exact .inl hsame
    · -- Only a loop that has not had a turn has no pass on record.
      have hrounds : d.rounds n = [] := List.map_eq_nil_iff.mp hnone
      rw [hrounds] at hheeds
      cases hheeds
      exact .inr ⟨rfl, hnone, hone⟩
  · rintro s tick rfl
    exact Fleet.pollLoop_lastly hends true s tick
  · rintro tick rfl
    refine ⟨Fleet.mem_readyTasks.mpr ⟨_, ht, ?_⟩, Fleet.turn_cancelled hends 3 tick⟩
    simp [Fleet.isReady, Fleet.isLoopReady, hc, hcancelled]
  · intro hstate hfinished
    have hgoes : state.isFinished = false := by
      cases state with
      | finished => exact absurd rfl hstate
      | _ => rfl
    exact Fleet.step_loop_done hc ht hgoes hfinished

def declared : Diary := ({ fleet := Chronicle.stuckFleet } : Diary).next Chronicle.declared

def interrupted : Diary :=
  let stalled := declared.step 0
  stalled.next (stalled.fleet.stop 0)

theorem declared_runs : Relation.ReflTransGen Move { fleet := Chronicle.stuckFleet } declared :=
  .single (.prompt (.handle (.added (Tracking.sample 1))))

theorem interrupted_runs : Relation.ReflTransGen Move { fleet := Chronicle.stuckFleet } interrupted :=
  (declared_runs.tail (.progress 0)).tail (.stop 0)

theorem interrupted_fleet : interrupted.fleet = Chronicle.stalledFleet.stop 0 :=
  congrArg (·.stop 0) Chronicle.declared_step

/-- A controller that is stopped during its first pass has begun its last one. -/
theorem cancelled_returns_interrupted :
    (∃ c, interrupted.fleet.controller? 0 = some c ∧ c.cancelled = true) ∧
    ∀ d', Relation.ReflTransGen Move interrupted d' → d'.begun 0 = interrupted.begun 0 := by
  have hfresh : Fleet.Fresh Chronicle.stuckFleet := ⟨rfl, rfl, rfl, rfl, rfl⟩
  have htask : ∃ s, interrupted.fleet.tasks[0]? = some (.loop 0 true (.passing s none)) := by
    rw [interrupted_fleet]
    exact ⟨_, rfl⟩
  have hcontroller : ∃ c, interrupted.fleet.controller? 0 = some c ∧ c.cancelled = true := by
    rw [interrupted_fleet]
    exact ⟨_, rfl, rfl⟩
  refine ⟨hcontroller, fun d' hmore => ?_⟩
  obtain ⟨s, hs⟩ := htask
  obtain ⟨c, hc, hcancelled⟩ := hcontroller
  obtain ⟨i, state, ht, hsole, hbegun, -⟩ :=
    cancelled_returns hfresh (by decide) interrupted_runs hc hcancelled
  obtain rfl := hsole 0 true _ hs
  rcases hbegun d' hmore with hsame | ⟨rfl, -⟩
  · exact hsame
  · cases hs.symm.trans ht

def withdrawn : Diary := declared.next (declared.fleet.handle (.deleted (Tracking.sample 1)))

def withdrawnController : Controller := withdrawn.fleet.controllers.get ⟨0, by decide⟩

/-- The first turn of its loop begins a pass, although the cluster is deleted already. -/
theorem withdrawn_step : withdrawn.fleet.step 0 =
    withdrawn.fleet.stalled 0 0 true withdrawnController Chronicle.stuckRequest :=
  Fleet.step_stalls rfl rfl rfl rfl

/-- The loop begins its first pass all the same, and asks for a service. -/
theorem withdrawn_begins :
    Relation.ReflTransGen Move { fleet := Chronicle.stuckFleet } withdrawn ∧
    withdrawn.fleet.controller? 0 = some withdrawnController ∧
    withdrawnController.cancelled = true ∧ withdrawn.begun 0 = [] ∧
    0 ∈ withdrawn.fleet.readyTasks ∧
    (withdrawn.step 0).begun 0 = [⟨(Tracking.sample 1).spec, 1⟩] ∧
    ((withdrawn.step 0).fleet.platform "default").calls.map (·.request.method) =
      [.createService] := by
  have hc : withdrawn.fleet.controller? 0 = some withdrawnController := rfl
  have hrounds : (withdrawn.step 0).rounds 0 = (withdrawn.fleet.recordLoop
      (withdrawn.history 0).length 0 true .unborn (withdrawn.rounds 0)).2 := step_loop_rounds rfl
  have hbegins := Fleet.recordLoop_unborn_cancelled hc rfl (withdrawn.history 0).length true
    (withdrawn.rounds 0)
  refine ⟨declared_runs.tail (.prompt (.handle _)), hc, rfl, rfl, by decide +kernel, ?_, ?_⟩
  · rw [Diary.begun, hrounds]
    exact hbegins
  · have hfleet : (withdrawn.step 0).fleet = withdrawn.fleet.step 0 := rfl
    rw [hfleet, withdrawn_step]
    decide +kernel

end Diary
end NatsFleet
