import NatsFleet.Fleet.Schedule
import NatsFleet.Proofs.Ledger
import Mathlib.Algebra.GroupWithZero.Nat

/-!
How the runtime of an operator goes on. While it stands still, no stop has anything to do, and there is
a rank that every task lowers which deals with cancelled controllers.
-/
namespace NatsFleet

namespace Fleet

/-- The runtime goes on: a task that is ready runs until it has to wait or, when none is, time goes by,
at most until the next moment that a task waits for. -/
inductive Tick (f : Fleet) : Fleet → Prop
  | run (i : Nat) (hready : i ∈ f.readyTasks) : Tick f (f.step i)
  | elapse (moment : Nat) (hidle : f.readyTasks = []) (hlater : f.now < moment)
      (hdue : ∀ due, f.nextDue? = some due → moment ≤ due) : Tick f { f with now := moment }

inductive Inevitably (goal : Fleet → Prop) : Fleet → Prop
  | now {f : Fleet} (h : goal f) : Inevitably goal f
  | later {f : Fleet} (hsome : ∃ f', f.Tick f') (hall : ∀ f', f.Tick f' → Inevitably goal f') :
      Inevitably goal f

variable {f : Fleet} {i n : Nat} {t : Task}

/-- The ready tasks are those that are ready. -/
theorem mem_readyTasks : i ∈ f.readyTasks ↔ ∃ t, f.tasks[i]? = some t ∧ f.isReady t = true := by
  simp only [readyTasks, List.mem_filter, List.mem_range, Option.any_eq_true]
  constructor
  · rintro ⟨-, t, ht, hready⟩
    exact ⟨t, ht, hready⟩
  · rintro ⟨t, ht, hready⟩
    exact ⟨(List.getElem?_eq_some_iff.mp ht).1, t, ht, hready⟩

theorem not_ready (hidle : f.readyTasks = []) (ht : t ∈ f.tasks) : f.isReady t = false := by
  by_contra hready
  obtain ⟨i, hi⟩ := List.mem_iff_getElem?.mp ht
  have hmem : i ∈ f.readyTasks := mem_readyTasks.mpr ⟨t, hi, eq_true_of_ne_false hready⟩
  rw [hidle] at hmem
  exact absurd hmem List.not_mem_nil

/-- The runtime never comes to a halt. -/
theorem exists_tick (f : Fleet) : ∃ f', f.Tick f' := by
  cases hready : f.readyTasks with
  | cons i rest => exact ⟨_, .run i (by rw [hready]; exact List.mem_cons_self)⟩
  | nil =>
    refine ⟨_, .elapse (f.now + 1) hready (Nat.lt_succ_self _) fun due hdue => ?_⟩
    have hmem := List.min?_mem hdue
    have hlater : f.now < due := by simpa using (List.mem_filter.mp hmem).2
    exact hlater

/-- Time does not pass a deadline that is still to come. -/
theorem le_due {moment due : Nat} (hdue : ∀ due, f.nextDue? = some due → moment ≤ due)
    (ht : t ∈ f.tasks) (htask : t.due? = some due) (hlater : f.now < due) : moment ≤ due := by
  have hmem : due ∈ (f.tasks.filterMap Task.due?).filter (f.now < ·) :=
    List.mem_filter.mpr ⟨List.mem_filterMap.mpr ⟨t, ht, htask⟩, by simpa using hlater⟩
  obtain ⟨next, hnext⟩ := Option.isSome_iff_exists.mp (List.isSome_min?_of_mem hmem)
  exact Nat.le_trans (hdue next hnext) ((List.min?_eq_some_iff.mp hnext).2 due hmem)

/-- A stop that has nothing to do has begun and waits for its loop or its deadline. -/
theorem stop_idle {state : Stopping} (h : f.isStopReady n state = false) :
    state ≠ .unborn ∧ ∀ deadline, state = .waiting deadline →
      f.now < deadline ∧ ∀ c, f.board.cards[n]? = some c → c.done = false := by
  cases state with
  | unborn => cases h
  | waiting deadline =>
    refine ⟨nofun, fun deadline' heq => ?_⟩
    cases heq
    rw [isStopReady, Bool.or_eq_false_iff, decide_eq_false_iff_not, Nat.not_le] at h
    refine ⟨h.1, fun c hc => ?_⟩
    have hdone := any_card f n (P := Card.done) (Q := Controller.done) fun _ => rfl
    rw [hc, h.2] at hdone
    exact hdone
  | «over» outcome => exact ⟨nofun, nofun⟩

theorem stops_due {stops : List (Nat × Stopping)} {deadline : Nat}
    (hidle : ∀ s ∈ stops, f.isStopReady s.1 s.2 = false) (hmem : (n, .waiting deadline) ∈ stops) :
    ∃ due, (stops.filterMap fun s => s.2.due?).min? = some due ∧ due ≤ deadline ∧ f.now < due := by
  have hdeadline : deadline ∈ stops.filterMap fun s => s.2.due? :=
    List.mem_filterMap.mpr ⟨_, hmem, rfl⟩
  obtain ⟨due, hdue⟩ := Option.isSome_iff_exists.mp (List.isSome_min?_of_mem hdeadline)
  obtain ⟨hfirst, hle⟩ := List.min?_eq_some_iff.mp hdue
  refine ⟨due, hdue, hle deadline hdeadline, ?_⟩
  obtain ⟨⟨m, state⟩, hs, hstate⟩ := List.mem_filterMap.mp hfirst
  cases state with
  | waiting first =>
    cases hstate
    exact ((stop_idle (hidle _ hs)).2 due rfl).1
  | _ => cases hstate

/-- A task that has nothing to do waits for stops that have nothing to do, and knows the first moment
at which that changes. -/
theorem task_idle (h : f.isReady t = false) {s : Nat × Stopping} (hs : s ∈ t.stopping) :
    f.isStopReady s.1 s.2 = false ∧ ∀ deadline, s.2 = .waiting deadline →
      ∃ due, t.due? = some due ∧ due ≤ deadline ∧ f.now < due := by
  -- A shutdown waits for its stops in a task of its own or on behalf of the dispatcher.
  have hclosing (state : Closing) (h : f.isClosingReady state = false) (hs : s ∈ state.stopping) :
      f.isStopReady s.1 s.2 = false ∧ ∀ deadline, s.2 = .waiting deadline →
        ∃ due, state.due? = some due ∧ due ≤ deadline ∧ f.now < due := by
    cases state with
    | joining stops =>
      have hidle : ∀ s ∈ stops, f.isStopReady s.1 s.2 = false := by
        simpa [isClosingReady] using h
      refine ⟨hidle s hs, fun deadline heq => ?_⟩
      obtain ⟨n, state⟩ := s
      obtain rfl : state = .waiting deadline := heq
      exact stops_due hidle hs
    | _ => cases hs
  cases t with
  | stops n grace states =>
    have hidle : ∀ s ∈ states.map fun state => (n, state), f.isStopReady s.1 s.2 = false := by
      simpa [isReady] using h
    refine ⟨hidle s hs, fun deadline heq => ?_⟩
    obtain ⟨m, state⟩ := s
    obtain rfl : state = .waiting deadline := heq
    have hdue := stops_due hidle hs
    rw [List.filterMap_map] at hdue
    exact hdue
  | cleanUp n state =>
    obtain rfl := List.mem_singleton.mp hs
    refine ⟨h, fun deadline heq => ⟨deadline, ?_, Nat.le_refl _, ((stop_idle h).2 deadline heq).1⟩⟩
    rw [Task.due?, show state = .waiting deadline from heq]
    rfl
  | shutdown state => exact hclosing state h hs
  | dispatch mailbox state =>
    cases state with
    | closing state => exact hclosing state h hs
    | _ => cases hs
  | _ => cases hs

/-- While the runtime stands still, no stop has anything to do. -/
theorem quiet {moment : Nat} (hidle : f.readyTasks = [])
    (hdue : ∀ due, f.nextDue? = some due → moment ≤ due) : f.board.docket.Quiet moment := by
  intro n state hs
  obtain ⟨t, ht, hmem⟩ := List.mem_flatMap.mp hs
  obtain ⟨hstop, hwaits⟩ := task_idle (not_ready hidle ht) hmem
  obtain ⟨hunborn, hdone⟩ := stop_idle hstop
  refine ⟨hunborn, fun deadline heq => ⟨?_, (hdone deadline heq).2⟩⟩
  obtain ⟨due, htask, hle, hlater⟩ := hwaits deadline heq
  exact Nat.le_trans (le_due hdue ht htask hlater) hle

end Fleet

/-! ## Ranks -/

def Stopping.rank : Stopping → Nat
  | .unborn => 2
  | .waiting _ => 1
  | .over _ => 0

def stopsRank (stops : List (Nat × Stopping)) : Nat := (stops.map fun s => s.2.rank).sum

def Closing.rank : Closing → Nat
  | .unborn | .draining _ => 1
  | .joining stops => 2 + stopsRank stops
  | .finished _ => 0

/-- How many times a task may still go on before time does. -/
def Task.rank (now : Nat) : Task → Nat
  | .loop _ _ state => if state.rests now then 0 else 1
  | .cleanUp _ state => state.rank
  | .shutdown state => state.rank
  | _ => 0

namespace Card

variable (c : Card) (now grace : Nat)

theorem check_rank (deadline : Nat) : (c.check now deadline).1.rank ≤ 1 := by
  unfold check
  split_ifs
  · exact Nat.zero_le 1
  · exact Nat.zero_le 1
  · exact Nat.le_refl 1

theorem check_rank_ready {deadline : Nat} (h : c.done = true ∨ deadline ≤ now) :
    (c.check now deadline).1.rank = 0 := by
  unfold check
  split_ifs with hdone hlate
  · rfl
  · rfl
  · exact absurd h (not_or.mpr ⟨hdone, hlate⟩)

theorem poll_rank_unborn : (c.poll now grace .unborn).1.rank ≤ 1 := by
  unfold poll
  split_ifs
  · exact Nat.zero_le 1
  · exact check_rank _ _ _

/-- No poll raises the rank of a stop. -/
theorem poll_rank (state : Stopping) : (c.poll now grace state).1.rank ≤ state.rank := by
  cases state with
  | unborn => exact Nat.le_succ_of_le (c.poll_rank_unborn now grace)
  | waiting deadline => exact c.check_rank now deadline
  | «over» outcome => exact Nat.le_refl _

end Card

namespace Board

def isStopReady (b : Board) (n : Nat) : Stopping → Bool
  | .unborn => true
  | .waiting deadline => deadline ≤ b.now || (b.cards[n]?).any (·.done)
  | .over _ => false

variable (b : Board) (n grace : Nat)

theorem pollStop_rank (state : Stopping) : (b.pollStop n grace state).1.rank ≤ state.rank := by
  cases hc : b.cards[n]? with
  | some c =>
    rw [pollStop_eq hc]
    exact c.poll_rank b.now grace state
  | none =>
    unfold pollStop
    rw [hc]
    cases state with
    | «over» outcome => exact Nat.le_refl _
    | _ => exact Nat.zero_le _

/-- One that is ready lowers it. -/
theorem pollStop_rank_lt {state : Stopping} (hready : b.isStopReady n state = true) :
    (b.pollStop n grace state).1.rank < state.rank := by
  cases hc : b.cards[n]? with
  | some c =>
    rw [pollStop_eq hc]
    cases state with
    | unborn => exact Nat.lt_succ_of_le (c.poll_rank_unborn b.now grace)
    | waiting deadline =>
      rw [isStopReady, hc, Option.any_some, Bool.or_eq_true, decide_eq_true_eq] at hready
      exact Nat.lt_of_le_of_lt (Nat.le_of_eq (c.check_rank_ready b.now hready.symm)) Nat.one_pos
    | «over» outcome => cases hready
  | none =>
    unfold pollStop
    rw [hc]
    cases state with
    | unborn => exact Nat.two_pos
    | waiting deadline => exact Nat.one_pos
    | «over» outcome => cases hready

theorem pollStop_isStopReady (m : Nat) (state other : Stopping) :
    (b.pollStop n grace state).2.isStopReady m other = b.isStopReady m other := by
  have hdone : ((b.pollStop n grace state).2.cards[m]?).any (·.done) = (b.cards[m]?).any (·.done) := by
    rw [cards_pollStop]
    split_ifs
    · cases b.cards[m]? with
      | none => rfl
      | some c => exact c.poll_done b.now grace state
    · rfl
  cases other with
  | waiting deadline =>
    rw [isStopReady, hdone]
    rfl
  | _ => rfl

theorem pollStops_rank (stops : List (Nat × Stopping)) :
    stopsRank (b.pollStops grace stops).1 ≤ stopsRank stops := by
  induction stops generalizing b with
  | nil => exact Nat.le_refl _
  | cons stop rest ih =>
    exact Nat.add_le_add (b.pollStop_rank stop.1 grace stop.2) (ih (b.pollStop stop.1 grace stop.2).2)

/-- If one of them is ready the sum falls. -/
theorem pollStops_rank_lt {stops : List (Nat × Stopping)}
    (hready : ∃ s ∈ stops, b.isStopReady s.1 s.2 = true) :
    stopsRank (b.pollStops grace stops).1 < stopsRank stops := by
  -- The stop that is ready stays so until its turn comes.
  induction stops generalizing b with
  | nil =>
    obtain ⟨s, hs, -⟩ := hready
    cases hs
  | cons stop rest ih =>
    obtain ⟨s, hs, hs'⟩ := hready
    have hhead := b.pollStop_rank stop.1 grace stop.2
    have hrest := pollStops_rank (b.pollStop stop.1 grace stop.2).2 grace rest
    rcases List.mem_cons.mp hs with rfl | hs
    · exact Nat.add_lt_add_of_lt_of_le (b.pollStop_rank_lt s.1 grace hs') hrest
    · refine Nat.add_lt_add_of_le_of_lt hhead (ih _ ⟨s, hs, ?_⟩)
      rw [pollStop_isStopReady]
      exact hs'

/-- A shutdown that drains goes on at most once more. -/
theorem drain_rank (controllers : List Nat) : (b.drain controllers).1.rank ≤ 1 := by
  unfold drain
  split_ifs
  · exact Nat.zero_le 1
  · exact Nat.le_refl 1

def isClosingReady (b : Board) : Closing → Bool
  | .unborn => true
  | .joining stops => stops.any fun s => b.isStopReady s.1 s.2
  | .draining _ => b.isDrained
  | .finished _ => false

/-- Whatever a shutdown has to do, it has done once it has gone on. -/
theorem pollClosing_rank {state : Closing} (hready : b.isClosingReady state = true)
    (hclosed : b.phase.isClosed = true) : (b.pollClosing state).1.rank < state.rank := by
  cases state with
  | unborn =>
    unfold pollClosing
    dsimp only
    rw [if_pos hclosed]
    exact Nat.one_pos
  | joining stops =>
    have hlt := b.pollStops_rank_lt b.settings.grace (List.any_eq_true.mp hready)
    unfold pollClosing join
    dsimp only
    split_ifs
    · -- Looking whether everything is over counts less than any wait.
      have hdrain := drain_rank (b.pollStops b.settings.grace stops).2
        ((b.pollStops b.settings.grace stops).1.map (·.1))
      exact Nat.lt_of_le_of_lt hdrain (Nat.lt_add_right _ (by decide))
    · exact Nat.add_lt_add_left hlt 2
  | draining controllers =>
    have hdrained : b.isDrained = true := hready
    unfold pollClosing drain
    dsimp only
    rw [if_pos hdrained]
    exact Nat.one_pos
  | finished moment => cases hready

end Board

namespace Fleet

def rank (f : Fleet) : Nat := (f.tasks.map (Task.rank f.now)).sum

/-- One smaller part makes the sum smaller. -/
theorem sum_set_lt {α : Type} (r : α → Nat) {l : List α} {i : Nat} {a b : α} (h : l[i]? = some a)
    (hlt : r b < r a) : ((l.set i b).map r).sum < (l.map r).sum := by
  induction l generalizing i with
  | nil => cases h
  | cons x rest ih =>
    cases i with
    | zero =>
      cases h
      exact Nat.add_lt_add_right hlt _
    | succ i => exact Nat.add_lt_add_left (ih h) _

variable {f : Fleet} {i n : Nat} {t t' : Task}

/-- If the rank of one task falls, so does that of the fleet. -/
theorem rank_lt (ht : f.tasks[i]? = some t) (htasks : (f.step i).tasks = f.tasks.set i t')
    (hnow : (f.step i).now = f.now) (hlt : t'.rank f.now < t.rank f.now) :
    (f.step i).rank < f.rank := by
  rw [rank, rank, htasks, hnow]
  exact sum_set_lt _ ht hlt

theorem board_isStopReady (f : Fleet) (n : Nat) (state : Stopping) :
    f.board.isStopReady n state = f.isStopReady n state := by
  cases state with
  | waiting deadline =>
    rw [Board.isStopReady, any_card f n (Q := Controller.done) fun _ => rfl]
    rfl
  | _ => rfl

theorem board_isClosingReady (f : Fleet) (state : Closing) :
    f.board.isClosingReady state = f.isClosingReady state := by
  cases state with
  | joining stops => simp only [Board.isClosingReady, isClosingReady, board_isStopReady]
  | draining controllers => exact board_isDrained f
  | _ => rfl

theorem rests_eq_false {state : Loop} (h : f.isLoopReady n state = true) :
    state.rests f.now = false := by
  cases state with
  | passing s tick =>
    rw [Loop.rests, Bool.not_eq_false']
    exact h
  | finished => cases h
  | _ => rfl

/-- A task that is ready goes on less often from then on, as long as every controller is cancelled. -/
theorem step_rank (hinterval : f.settings.interval ≠ 0) (hcancelled : ∀ n, f.isCancelled n = true)
    (hclosed : f.phase.isClosed = true) (ht : f.tasks[i]? = some t) (hordinary : t.isOrdinary = true)
    (hready : f.isReady t = true) : (f.step i).rank < f.rank := by
  have hnow : (f.step i).now = f.now := (step_moves ht hordinary hinterval).clock.1
  cases t with
  | loop n first state =>
    have hready' : f.isLoopReady n state = true := hready
    have hstate : state.isFinished = false := by
      cases state with
      | finished => cases hready'
      | _ => rfl
    have htasks := congrArg Board.tasks (step_loop_board ht hstate)
    rw [Board.setTask, Board.afterLoop_tasks] at htasks
    refine rank_lt ht htasks hnow ?_
    rw [Task.rank, Task.rank, pollLoop_rests (hcancelled n), rests_eq_false hready']
    exact Nat.one_pos
  | cleanUp n state =>
    have htasks := congrArg Board.tasks (step_cleanUp_board ht)
    rw [Board.setTask, Board.pollCleanUp_tasks] at htasks
    refine rank_lt ht htasks hnow ?_
    exact f.board.pollStop_rank_lt n f.settings.grace ((board_isStopReady f n state).trans hready)
  | shutdown state =>
    refine rank_lt ht (step_shutdown_tasks ht) hnow ?_
    exact f.board.pollClosing_rank ((board_isClosingReady f state).trans hready) hclosed
  | _ => cases hordinary

end Fleet
end NatsFleet
