import NatsFleet.Proofs.Mirror

/-!
What the loop of a controller does when it goes on. It returns only after the controller has been
cancelled, and then it runs at most once more before it has to wait for a request.
-/
namespace NatsFleet

def Loop.rests (now : Nat) : Loop → Bool
  | .passing s _ => !s.due?.any (· ≤ now)
  | .finished => true
  | _ => false

namespace Fleet

variable {f g : Fleet} {i n : Nat} {first : Bool}

theorem isCancelled_congr {f' : Fleet} (h : f'.board = f.board) (n : Nat) :
    f'.isCancelled n = f.isCancelled n := by
  rw [← board_isCancelled, ← board_isCancelled, h]

/-- A request that a pass waits for does not come back at once. -/
theorem drive_due (f : Fleet) (n : Nat) (whole : Bool) (stage : Pass.Stage) {s : Standing}
    (h : (f.drive n whole stage).1 = some s) : s.due?.any (· ≤ f.now) = false := by
  fun_induction drive f n whole stage with
  | case1 => cases h
  | case2 => cases h
  | case3 =>
    cases h
    rfl
  | case4 => cases h
  | case5 =>
    cases h
    rfl
  | case6 f stage c hc request hrequest hwhole place taken hdelay reply p hreply next =>
    rename_i ih
    have hnow : next.2.now = f.now := congrArg Board.now (board_resume hc stage reply)
    rw [← hnow]
    exact ih h
  | case7 f stage c hc request hrequest hwhole place taken hdelay =>
    cases h
    have hpos : 0 < taken.1.delay := Nat.pos_of_ne_zero hdelay
    simp only [Standing.due?, Option.map_some, Option.any_some, decide_eq_false_iff_not]
    omega

/-- A pass that waits waits for something that is not due yet. -/
theorem pass_due (f : Fleet) (n : Nat) (whole : Bool) {s : Standing}
    (h : (f.pass n whole).1 = some s) : s.due?.any (· ≤ f.now) = false := by
  unfold pass at h
  split at h
  · cases h
  · exact drive_due f n whole _ h

theorem land_due (f : Fleet) (n : Nat) (whole : Bool) (s : Standing) {s' : Standing}
    (h : (f.land n whole s).1 = some s') : s'.due?.any (· ≤ f.now) = false := by
  unfold land at h
  split at h
  · rename_i hflight
    cases h
    rw [Standing.due?, hflight]
    rfl
  · cases h
  · rename_i flight c hflight hc
    split at h
    · rename_i hearly
      cases h
      rw [Standing.due?, hflight]
      simpa using hearly
    · dsimp only at h
      split at h
      · cases h
        rfl
      · rename_i reply p hreply
        have hboard := board_resume (f := f.setPlatform c.key.namespaceName p) hc s.stage reply
        have hnow : ((f.setPlatform c.key.namespaceName p).resume n c s.stage reply).2.now = f.now :=
          congrArg Board.now hboard
        rw [← hnow]
        exact drive_due _ n whole _ h

/-- What becomes of a loop that has waited. In between it may have changed anything but the board. -/
inductive Turned (fuel : Nat) (f : Fleet) (n : Nat) (first : Bool) : Loop × Fleet → Prop
  | absent (hnone : f.controller? n = none) : Turned fuel f n first (.finished, f)
  | ends {g : Fleet} (hboard : g.board = f.board) (hcancelled : f.isCancelled n = true) :
      Turned fuel f n first (g.endLoop n first)
  | stands {g : Fleet} {s : Standing} {tick : Option Nat} (hboard : g.board = f.board)
      (hworks : f.isCancelled n = false) : Turned fuel f n first (.passing s tick, g)
  | again {g : Fleet} (tick : Nat) (hboard : g.board = f.board) (hworks : f.isCancelled n = false) :
      Turned fuel f n first (turn fuel g n first tick)
  | waits {g : Fleet} {tick : Nat} (hboard : g.board = f.board) (hworks : f.isCancelled n = false) :
      Turned fuel f n first (.waiting tick, g)

theorem turned_of_pass (fuel tick : Nat) (hboard : g.board = f.board)
    (hworks : f.isCancelled n = false) :
    Turned fuel f n first (match g.pass n true with
      | (some s, g) => (.passing s (some tick), g)
      | (none, g) => turn fuel g n first tick) := by
  have hpass := pass_board g n true
  split
  · rename_i s g' heq
    rw [heq] at hpass
    exact .stands (hpass.trans hboard) hworks
  · rename_i g' heq
    rw [heq] at hpass
    exact .again tick (hpass.trans hboard) hworks

/-- A loop that has waited returns, waits on, or makes a pass. -/
theorem turn_cases (fuel : Nat) (f : Fleet) (n : Nat) (first : Bool) (tick : Nat) :
    Turned fuel f n first (turn (fuel + 1) f n first tick) := by
  unfold turn
  split
  · exact .absent (by assumption)
  · rename_i c hc
    have hcancelled := isCancelled_eq hc
    split_ifs with hends hdue hwake
    · have hleft : ((f.changeSignal n Signal.leave).note ((Log.info
          "Cluster controller stopped").within c.span)).board = f.board := changeSignal_board f n _
      exact .ends hleft (hcancelled.trans hends)
    · exact turned_of_pass fuel _ (changeSignal_board f n _)
        (hcancelled.trans (eq_false_of_ne_true hends))
    · have htaken : ((f.changeSignal n Signal.take).note ((Log.debug
          "Spec changed, reconciling").within c.span)).board = f.board := changeSignal_board f n _
      exact turned_of_pass fuel tick htaken (hcancelled.trans (eq_false_of_ne_true hends))
    · exact .waits (changeSignal_board f n _) (hcancelled.trans (eq_false_of_ne_true hends))

/-- What becomes of a loop that goes on: a pass is under way, or has ended. -/
inductive Polled (f : Fleet) (n : Nat) (first : Bool) : Loop × Fleet → Prop
  | stands {g : Fleet} {s : Standing} {tick : Option Nat} (hboard : g.board = f.board)
      (hdue : s.due?.any (· ≤ f.now) = false) : Polled f n first (.passing s tick, g)
  | passed {g : Fleet} (tick : Option Nat) (hboard : g.board = f.board) :
      Polled f n first (g.afterPass n first tick)

/-- A loop that goes on is in a pass, or has just ended one. -/
theorem pollLoop_cases (f : Fleet) (n : Nat) (first : Bool) {state : Loop}
    (hstate : state.isFinished = false) : Polled f n first (f.pollLoop n first state) := by
  cases state with
  | unborn =>
    unfold pollLoop
    dsimp only
    generalize hnoted : f.note ((Log.info "Starting cluster controller").within
      (((f.controller? n).map (·.span)).getD [])) = g
    have hboard : g.board = f.board := hnoted ▸ board_note f _
    have hnow : g.now = f.now := congrArg Board.now hboard
    have hpass := pass_board g n true
    split
    · rename_i s g' heq
      rw [heq] at hpass
      have hdue := pass_due g n true (congrArg Prod.fst heq)
      exact .stands (hpass.trans hboard) (hnow ▸ hdue)
    · rename_i g' heq
      rw [heq] at hpass
      exact .passed none (hpass.trans hboard)
  | passing s tick =>
    have hland := land_board f n true s
    unfold pollLoop
    dsimp only
    split
    · rename_i s' g heq
      rw [heq] at hland
      exact .stands hland (land_due f n true s (congrArg Prod.fst heq))
    · rename_i g heq
      rw [heq] at hland
      exact .passed tick hland
  | waiting tick => exact .passed (some tick) rfl
  | finished => cases hstate

/-! ## The board -/

/-- The turn of a loop changes nothing that the operator goes by, unless it returns. -/
theorem turn_board (fuel : Nat) (f : Fleet) (n : Nat) (first : Bool) (tick : Nat) :
    (turn fuel f n first tick).2.board = f.board.afterLoop n first (turn fuel f n first tick).1 := by
  induction fuel generalizing f tick with
  | zero => rfl
  | succ fuel ih =>
    have hturn := turn_cases fuel f n first tick
    generalize turn (fuel + 1) f n first tick = r at hturn ⊢
    cases hturn with
    | absent hnone =>
      have hcard : f.board.cards[n]? = none := by rw [board_cards, hnone]; rfl
      cases first with
      | false => rfl
      | true => exact (f.board.change_none hcard _).symm
    | ends hboard => rw [endLoop_board, hboard]
    | stands hboard => exact hboard
    | again tick hboard => rw [ih, hboard]
    | waits hboard => exact hboard

theorem afterPass_board (f : Fleet) (n : Nat) (first : Bool) (tick : Option Nat) :
    (f.afterPass n first tick).2.board = f.board.afterLoop n first (f.afterPass n first tick).1 := by
  unfold afterPass
  split
  · exact turn_board _ _ _ _ _
  · split_ifs
    · exact endLoop_board f n first
    · exact turn_board _ _ _ _ _

/-- However a loop goes on, all it does to the board is to return. -/
theorem pollLoop_board (f : Fleet) (n : Nat) (first : Bool) {state : Loop}
    (hstate : state.isFinished = false) :
    (f.pollLoop n first state).2.board =
      f.board.afterLoop n first (f.pollLoop n first state).1 := by
  have hpolled := pollLoop_cases f n first hstate
  generalize f.pollLoop n first state = r at hpolled ⊢
  cases hpolled with
  | stands hboard => exact hboard
  | passed tick hboard => rw [afterPass_board, hboard]

theorem step_loop_board {first : Bool} {state : Loop} (h : f.tasks[i]? = some (.loop n first state))
    (hstate : state.isFinished = false) :
    (f.step i).board = (f.board.afterLoop n first (f.pollLoop n first state).1).setTask i
      (.loop n first (f.pollLoop n first state).1) := by
  rw [step_board h, ← pollLoop_board f n first hstate]
  rfl

theorem step_finished {first : Bool} (h : f.tasks[i]? = some (.loop n first .finished)) :
    (f.step i).board = f.board := by
  have hset : f.tasks.set i (.loop n first .finished) = f.tasks := Board.set_same h
  rw [step_board h]
  simp only [run, pollLoop, Board.setTask, board, hset]

/-- A loop that has a turn does to the board what its new state says, or nothing if it has returned. -/
theorem step_loop_cases {first : Bool} {state : Loop}
    (h : f.tasks[i]? = some (.loop n first state)) :
    (f.step i).board = f.board ∨ ∃ state', (f.step i).board =
      (f.board.afterLoop n first state').setTask i (.loop n first state') := by
  cases hstate : state.isFinished with
  | true =>
    cases state <;> cases hstate
    exact .inl (step_finished h)
  | false => exact .inr ⟨_, step_loop_board h hstate⟩

/-! ## The end of a loop -/

/-- A loop that returns has been cancelled. -/
theorem turn_finished (fuel : Nat) (f : Fleet) (tick : Nat)
    (h : (turn fuel f n first tick).1 = .finished) : f.isCancelled n = true := by
  induction fuel generalizing f tick with
  | zero => cases h
  | succ fuel ih =>
    have hturn := turn_cases fuel f n first tick
    generalize turn (fuel + 1) f n first tick = r at hturn h
    cases hturn with
    | absent hnone => rw [isCancelled, hnone]; rfl
    | ends _ hcancelled => exact hcancelled
    | stands => cases h
    | again tick hboard =>
      -- The pass in between has not cancelled anything.
      rw [← isCancelled_congr hboard]
      exact ih _ _ h
    | waits => cases h

/-- A loop that waits and is cancelled returns at its next turn. -/
theorem turn_cancelled (hcancelled : f.isCancelled n = true) (fuel tick : Nat) :
    (turn (fuel + 1) f n first tick).1 = .finished := by
  have hturn := turn_cases fuel f n first tick
  generalize turn (fuel + 1) f n first tick = r at hturn ⊢
  cases hturn with
  | absent => rfl
  | ends => rfl
  | stands _ hworks => exact absurd hcancelled (by simp [hworks])
  | again _ _ hworks => exact absurd hcancelled (by simp [hworks])
  | waits _ hworks => exact absurd hcancelled (by simp [hworks])

/-- After a pass a loop returns only if it is cancelled, given a period. -/
theorem afterPass_finished (hinterval : f.settings.interval ≠ 0) {tick : Option Nat}
    (h : (f.afterPass n first tick).1 = .finished) : f.isCancelled n = true := by
  unfold afterPass at h
  split at h
  · exact turn_finished _ f _ h
  · rw [if_neg hinterval] at h
    exact turn_finished _ f _ h

/-- If it is cancelled it does return. -/
theorem afterPass_cancelled (hcancelled : f.isCancelled n = true) (tick : Option Nat) :
    (f.afterPass n first tick).1 = .finished := by
  unfold afterPass
  split
  · exact turn_cancelled hcancelled 3 _
  · split_ifs
    · rfl
    · exact turn_cancelled hcancelled 3 _

/-- A loop returns only if its controller is cancelled. -/
theorem pollLoop_finished (hinterval : f.settings.interval ≠ 0) {state : Loop}
    (hstate : state.isFinished = false) (h : (f.pollLoop n first state).1 = .finished) :
    f.isCancelled n = true := by
  have hpolled := pollLoop_cases f n first hstate
  generalize f.pollLoop n first state = r at hpolled h
  cases hpolled with
  | stands => cases h
  | passed tick hboard =>
    rw [← isCancelled_congr hboard]
    have hsettings := congrArg Board.settings hboard
    exact afterPass_finished (fun hzero => hinterval ((congrArg Settings.interval hsettings).symm.trans
      hzero)) h

/-- The loop of a cancelled controller returns, unless a request of its pass keeps it waiting. -/
theorem pollLoop_rests (hcancelled : f.isCancelled n = true) (first : Bool) (state : Loop) :
    (f.pollLoop n first state).1.rests f.now = true := by
  cases hstate : state.isFinished with
  | true =>
    cases state <;> cases hstate
    rfl
  | false =>
    have hpolled := pollLoop_cases f n first hstate
    generalize f.pollLoop n first state = r at hpolled ⊢
    cases hpolled with
    | stands _ hdue => simp only [Loop.rests, hdue, Bool.not_false]
    | passed tick hboard =>
      rw [← isCancelled_congr hboard] at hcancelled
      rw [afterPass_cancelled hcancelled]
      rfl

/-! ## A pass that is stuck -/

/-- A pass gets stuck at a request that never comes back. -/
theorem drive_stalls {f : Fleet} {n : Nat} {stage : Pass.Stage} {c : Controller} {request : Request}
    (hc : f.controller? n = some c) (hrequest : stage.request? c.identity = some request)
    (htake : ((f.platform c.key.namespaceName).take request.method).1 = .stalls) :
    f.drive n true stage = (some ⟨stage, none⟩, f.setPlatform c.key.namespaceName
      (((f.platform c.key.namespaceName).take request.method).2.note f.now request none)) := by
  rw [Fleet.drive.eq_def]
  simp only [hc]
  split
  · rename_i h
    simp [hrequest] at h
  · rename_i request' h
    obtain rfl : request' = request := by simpa [hrequest] using h.symm
    simp [htake, Outcome.delay, Outcome.ending, Platform.conclude]

def stalled (f : Fleet) (i n : Nat) (first : Bool) (c : Controller) (request : Request) : Fleet :=
  let taken := (f.platform c.key.namespaceName).take request.method
  { (f.note ((Log.info "Starting cluster controller").within c.span)).setPlatform
      c.key.namespaceName (taken.2.note f.now request none) with
    tasks := f.tasks.set i (.loop n first (.passing ⟨Pass.start c.identity c.spec, none⟩ none)) }

theorem step_stalls {f : Fleet} {i n : Nat} {first : Bool} {c : Controller} {request : Request}
    (htask : f.tasks[i]? = some (.loop n first .unborn)) (hc : f.controller? n = some c)
    (hrequest : (Pass.start c.identity c.spec).request? c.identity = some request)
    (htake : ((f.platform c.key.namespaceName).take request.method).1 = .stalls) :
    f.step i = f.stalled i n first c request := by
  have hnoted : (f.note ((Log.info "Starting cluster controller").within c.span)).controller? n =
      some c := hc
  have hdrive := drive_stalls hnoted hrequest htake
  simp only [step, htask, run, pollLoop, hc, pass, Option.map_some, Option.getD_some]
  rw [hnoted]
  simp only [hdrive]
  rfl

end Fleet
end NatsFleet
