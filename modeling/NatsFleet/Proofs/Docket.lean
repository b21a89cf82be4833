import NatsFleet.Proofs.Loops
import Mathlib.Logic.Relation

/-!
The stops that are under way, wherever they are waited for, and the moves that everything an operator
does about them is made of.
-/
namespace NatsFleet

def Closing.stopping : Closing → List (Nat × Stopping)
  | .joining stops => stops
  | _ => []

def Task.stopping : Task → List (Nat × Stopping)
  | .stops n _ states => states.map fun state => (n, state)
  | .cleanUp n state => [(n, state)]
  | .shutdown state => state.stopping
  | .dispatch _ (.closing state) => state.stopping
  | _ => []

def Board.stops (b : Board) : List (Nat × Stopping) := b.tasks.flatMap Task.stopping

/-- A board and the stops that are under way. -/
structure Docket where
  board : Board
  stops : List (Nat × Stopping)

def Board.docket (b : Board) : Docket := ⟨b, b.stops⟩

namespace Docket

/-- What happens to the stops that are under way. -/
inductive Move (d : Docket) : Docket → Prop
  | poll (before after : List (Nat × Stopping)) (n : Nat) (state : Stopping)
      (h : d.stops = before ++ (n, state) :: after) :
      Move d ⟨(d.board.pollStop n d.board.settings.grace state).2,
        before ++ (n, (d.board.pollStop n d.board.settings.grace state).1) :: after⟩
  | unregister (n : Nat) (outcome : StopOutcome) (h : (n, .over outcome) ∈ d.stops) :
      Move d ⟨d.board.unregister n, d.stops⟩
  | finish (n : Nat) (h : d.board.isCancelled n = true) :
      Move d ⟨d.board.change n Card.finish, d.stops⟩
  -- Stops that are over may go, and new ones of registered controllers may come.
  | arrange (tasks : List Task) (stops : List (Nat × Stopping))
      (hkeep : ∀ s ∈ d.stops, s.2.isOver = false → s ∈ stops)
      (hnew : ∀ s ∈ stops, s ∈ d.stops ∨ s.2 = .unborn ∧ s.1 ∈ d.board.registry.snapshot) :
      Move d ⟨{ d.board with tasks := tasks }, stops⟩
  | close : Move d ⟨{ d.board with phase := .shuttingDown }, d.stops⟩
  | shut (hdrained : d.board.isDrained = true) (hlisted : ∀ s ∈ d.stops, s.2.isOver = false →
      ∃ t ∈ d.board.tasks, s.1 ∈ t.controllers) : Move d ⟨d.board.shut, d.stops⟩

abbrev Moves : Docket → Docket → Prop := Relation.ReflTransGen Move

theorem Move.clock {d d' : Docket} (h : d.Move d') :
    d'.board.now = d.board.now ∧ d'.board.settings = d.board.settings := by
  cases h with
  | unregister n outcome hover =>
    unfold Board.unregister
    split <;> exact ⟨rfl, rfl⟩
  | _ => exact ⟨rfl, rfl⟩

/-- Time stands still, and settings stay, while tasks go on. -/
theorem Moves.clock {d d' : Docket} (h : d.Moves d') :
    d'.board.now = d.board.now ∧ d'.board.settings = d.board.settings := by
  induction h with
  | refl => exact ⟨rfl, rfl⟩
  | tail _ hmove ih => exact ⟨hmove.clock.1.trans ih.1, hmove.clock.2.trans ih.2⟩

end Docket

namespace Board

variable {b : Board} {i : Nat} {t : Task}

/-- The stops of one task stand together among those of all. -/
theorem stops_split (ht : b.tasks[i]? = some t) : ∃ before after,
    b.stops = before ++ t.stopping ++ after ∧
      ∀ (b' : Board) (t' : Task), b'.tasks = b.tasks →
        (b'.setTask i t').stops = before ++ t'.stopping ++ after := by
  have hlt := (List.getElem?_eq_some_iff.mp ht).1
  have hset (b' : Board) (t' : Task) (htasks : b'.tasks = b.tasks) : (b'.setTask i t').stops =
      (b.tasks.take i).flatMap Task.stopping ++ t'.stopping ++
        (b.tasks.drop (i + 1)).flatMap Task.stopping := by
    simp [stops, setTask, List.set_eq_take_append_cons_drop, hlt, htasks]
  refine ⟨_, _, ?_, hset⟩
  rw [← hset b t rfl, setTask, set_same ht]

theorem mem_closing {s : Nat × Stopping} {state : Closing} (hs : s ∈ state.stopping) :
    s.1 ∈ state.controllers := by
  cases state with
  | joining stops => exact List.mem_map_of_mem hs
  | _ => cases hs

/-- A task minds each stop that it waits for and that is not over. -/
theorem mem_controllers {s : Nat × Stopping} (hs : s ∈ t.stopping) (hover : s.2.isOver = false) :
    s.1 ∈ t.controllers := by
  cases t with
  | stops n grace states =>
    obtain ⟨state, hstate, rfl⟩ := List.mem_map.mp hs
    have hall : states.all Stopping.isOver = false :=
      List.all_eq_false.mpr ⟨state, hstate, by simp [hover]⟩
    simp [Task.controllers, hall]
  | cleanUp n state =>
    obtain rfl := List.mem_singleton.mp hs
    simp [Task.controllers, hover]
  | shutdown state => exact mem_closing hs
  | dispatch mailbox state =>
    cases state with
    | closing state => exact mem_closing hs
    | _ => cases hs
  | _ => cases hs

theorem stops_listed {s : Nat × Stopping} (hs : s ∈ b.stops) (hover : s.2.isOver = false) :
    ∃ t ∈ b.tasks, s.1 ∈ t.controllers := by
  obtain ⟨t, ht, hmem⟩ := List.mem_flatMap.mp hs
  exact ⟨t, ht, mem_controllers hmem hover⟩

/-- Once nothing is left to wait for, a controller whose stop is not complete is neither registered nor
dealt with by a task. -/
theorem free_of_drained (hdrained : b.isDrained = true) {n : Nat} {c : Card}
    (hc : b.cards[n]? = some c) (hsupervised : c.supervised = true) :
    n ∉ b.registry.snapshot ∧ ∀ t ∈ b.tasks, n ∉ t.controllers := by
  have hlt := (List.getElem?_eq_some_iff.mp hc).1
  have hfree := List.all_eq_true.mp hdrained n (List.mem_range.mpr hlt)
  rw [hc, Option.any_some, hsupervised, Bool.true_and, Bool.not_eq_true', Bool.or_eq_false_iff] at hfree
  obtain ⟨hunregistered, htasks⟩ := hfree
  exact ⟨by simpa using hunregistered, fun t ht => by simpa using List.any_eq_false.mp htasks t ht⟩

/-- A clean-up asks for a registered controller. -/
theorem cleanUp_move {n : Nat} (hn : n ∈ b.registry.snapshot) :
    b.docket.Move ⟨b.spawn (.cleanUp n .unborn), b.stops ++ [(n, .unborn)]⟩ := by
  refine .arrange _ _ (fun s hs _ => List.mem_append_left _ hs) fun s hs => ?_
  rcases List.mem_append.mp hs with hs | hs
  · exact .inl hs
  · obtain rfl := List.mem_singleton.mp hs
    exact .inr ⟨rfl, hn⟩

theorem cleanUp_stops (b : Board) (n : Nat) (g : Card → Card) :
    ((b.change n g).spawn (.cleanUp n .unborn)).stops = b.stops ++ [(n, .unborn)] := by
  simp [stops, spawn, change, Task.stopping]

/-- Stops go on one after the other, while others stay as they are. -/
theorem pollStops_moves (b : Board) (before stops after : List (Nat × Stopping)) :
    Docket.Moves ⟨b, before ++ stops ++ after⟩
      ⟨(b.pollStops b.settings.grace stops).2,
        before ++ (b.pollStops b.settings.grace stops).1 ++ after⟩ := by
  -- A stop that has gone on joins those in front, and the next one is the first to go on.
  induction stops generalizing b before with
  | nil => exact .refl
  | cons stop rest ih =>
    obtain ⟨n, state⟩ := stop
    have hpoll := Docket.Move.poll (d := ⟨b, before ++ (n, state) :: rest ++ after⟩) before
      (rest ++ after) n state (by simp)
    have hrest := ih (b.pollStop n b.settings.grace state).2
      (before ++ [(n, (b.pollStop n b.settings.grace state).1)])
    have hsettings : (b.pollStop n b.settings.grace state).2.settings = b.settings := rfl
    rw [hsettings] at hrest
    simp only [List.append_assoc, List.cons_append, List.nil_append] at hpoll hrest ⊢
    exact .head hpoll hrest

theorem pollStops_tasks (b : Board) (grace : Nat) (stops : List (Nat × Stopping)) :
    (b.pollStops grace stops).2.tasks = b.tasks := by
  induction stops generalizing b with
  | nil => rfl
  | cons stop rest ih => exact ih (b.pollStop stop.1 grace stop.2).2

/-- A task changes, and stops that are over may go with it. -/
theorem setTask_move (d : Docket) (i : Nat) (t : Task) {stops : List (Nat × Stopping)}
    (hkeep : ∀ s ∈ d.stops, s.2.isOver = false → s ∈ stops) (hnew : ∀ s ∈ stops, s ∈ d.stops) :
    d.Move ⟨d.board.setTask i t, stops⟩ :=
  .arrange _ stops hkeep fun s hs => .inl (hnew s hs)

theorem mem_around {before after : List (Nat × Stopping)} {s : Nat × Stopping}
    (stops : List (Nat × Stopping)) (hs : s ∈ before ++ after) : s ∈ before ++ stops ++ after := by
  rcases List.mem_append.mp hs with hs | hs
  · exact List.mem_append_left _ (List.mem_append_left _ hs)
  · exact List.mem_append_right _ hs

/-- A shutdown looks for itself whether everything is over. -/
theorem drain_moves {before after : List (Nat × Stopping)} (i : Nat) (t : Task)
    (controllers : List Nat) {stops : List (Nat × Stopping)} (hover : ∀ s ∈ stops, s.2.isOver = true)
    (hlisted : ∀ s ∈ before ++ after, s.2.isOver = false → ∃ t ∈ b.tasks, s.1 ∈ t.controllers) :
    Docket.Moves ⟨b, before ++ stops ++ after⟩
      ⟨(b.drain controllers).2.setTask i t, before ++ after⟩ := by
  have hkeep : ∀ s ∈ before ++ stops ++ after, s.2.isOver = false → s ∈ before ++ after := by
    intro s hs hs'
    rcases List.mem_append.mp hs with hs | hs
    · rcases List.mem_append.mp hs with hs | hs
      · exact List.mem_append_left _ hs
      · exact absurd (hover s hs) (by simp [hs'])
    · exact List.mem_append_right _ hs
  have hnew : ∀ s ∈ before ++ after, s ∈ before ++ stops ++ after := fun s hs => mem_around stops hs
  unfold drain
  split_ifs with hdrained
  · -- Whatever else is waited for is still listed with its task.
    have hshut := Docket.Move.shut (d := ⟨b, before ++ stops ++ after⟩) hdrained
      fun s hs hs' => hlisted s (hkeep s hs hs') hs'
    exact .tail (.single hshut) (setTask_move _ i _ hkeep hnew)
  · exact .single (setTask_move ⟨b, _⟩ i _ hkeep hnew)

theorem drain_stopping (b : Board) (controllers : List Nat) :
    (b.drain controllers).1.stopping = [] := by
  unfold drain
  split_ifs <;> rfl

/-- A shutdown moves its own stops only. -/
theorem join_moves {before after : List (Nat × Stopping)} (i : Nat) {t : Task}
    (stops : List (Nat × Stopping)) (ht : t.stopping = (b.join stops).1.stopping)
    (hlisted : ∀ s ∈ before ++ after, s.2.isOver = false → ∃ t ∈ b.tasks, s.1 ∈ t.controllers) :
    Docket.Moves ⟨b, before ++ stops ++ after⟩
      ⟨(b.join stops).2.setTask i t, before ++ t.stopping ++ after⟩ := by
  refine (pollStops_moves b before stops after).trans ?_
  rw [ht]
  unfold join
  dsimp only
  -- From here on only what the stops have come to counts.
  have htasks := pollStops_tasks b b.settings.grace stops
  generalize b.pollStops b.settings.grace stops = polled at htasks ⊢
  obtain ⟨stops', b'⟩ := polled
  dsimp only at htasks ⊢
  split_ifs with hall
  · have hover : ∀ s ∈ stops', s.2.isOver = true := by simpa using hall
    have hdrain : Docket.Moves ⟨b', before ++ stops' ++ after⟩
        ⟨(b'.drain (stops'.map (·.1))).2.setTask i t, before ++ after⟩ :=
      drain_moves i t (stops'.map (·.1)) hover (htasks ▸ hlisted)
    rw [drain_stopping, List.append_nil]
    exact hdrain
  · exact .single (setTask_move ⟨b', _⟩ i _ (fun s hs _ => hs) fun s hs => hs)

theorem drain_tasks (b : Board) (controllers : List Nat) :
    (b.drain controllers).2.tasks = b.tasks := by
  unfold drain
  split_ifs <;> rfl

theorem join_tasks (b : Board) (stops : List (Nat × Stopping)) :
    (b.join stops).2.tasks = b.tasks := by
  have htasks := pollStops_tasks b b.settings.grace stops
  unfold join
  dsimp only
  split_ifs
  · rw [drain_tasks, htasks]
  · exact htasks

theorem pollClosing_tasks (b : Board) (state : Closing) :
    (b.pollClosing state).2.tasks = b.tasks := by
  cases state with
  | unborn =>
    unfold pollClosing
    dsimp only
    split_ifs
    · rfl
    · exact join_tasks _ _
  | joining stops => exact join_tasks b stops
  | draining controllers => exact drain_tasks b controllers
  | finished moment => rfl

theorem pollCleanUp_tasks (b : Board) (n : Nat) (state : Stopping) :
    (b.pollCleanUp n state).2.tasks = b.tasks := by
  unfold pollCleanUp unregister
  dsimp only
  split_ifs
  · split <;> rfl
  · rfl

theorem afterLoop_tasks (b : Board) (n : Nat) (first : Bool) (state : Loop) :
    (b.afterLoop n first state).tasks = b.tasks := by
  unfold afterLoop
  split_ifs <;> rfl

/-- A shutdown goes on by moves of the stops that it waits for, in whichever task it is. -/
theorem pollClosing_moves {state : Closing} {t' : Task} (ht : b.tasks[i]? = some t)
    (hold : t.stopping = state.stopping) (hnew : t'.stopping = (b.pollClosing state).1.stopping) :
    Docket.Moves b.docket ((b.pollClosing state).2.setTask i t').docket := by
  obtain ⟨before, after, hstops, hset⟩ := stops_split ht
  have hlisted : ∀ s ∈ before ++ after, s.2.isOver = false → ∃ t ∈ b.tasks, s.1 ∈ t.controllers := by
    intro s hs
    apply stops_listed
    rw [hstops]
    exact mem_around _ hs
  rw [docket, docket, hset _ _ (pollClosing_tasks b state), hstops, hold]
  cases state with
  | unborn =>
    unfold pollClosing at hnew ⊢
    dsimp only at hnew ⊢
    split_ifs at hnew ⊢
    · rw [hnew]
      exact .single (setTask_move ⟨b, _⟩ i _ (fun s hs _ => hs) fun s hs => hs)
    · -- Its stops are there before the phase changes, so that no controller is left out.
      let asked := b.registry.snapshot.map fun n => (n, Stopping.unborn)
      have hask : Docket.Move ⟨b, before ++ [] ++ after⟩ ⟨b, before ++ asked ++ after⟩ := by
        refine .arrange (d := ⟨b, before ++ [] ++ after⟩) b.tasks _ ?_ ?_
        · intro s hs _
          rw [List.append_nil] at hs
          exact mem_around asked hs
        · intro s hs
          rw [List.append_nil]
          rcases List.mem_append.mp hs with hs | hs
          · rcases List.mem_append.mp hs with hs | hs
            · exact .inl (List.mem_append_left _ hs)
            · obtain ⟨n, hn, rfl⟩ := List.mem_map.mp hs
              exact .inr ⟨rfl, hn⟩
          · exact .inl (List.mem_append_right _ hs)
      have hclose := Docket.Move.close (d := ⟨b, before ++ asked ++ after⟩)
      exact .head hask (.head hclose
        (join_moves (b := { b with phase := .shuttingDown }) i asked hnew hlisted))
  | joining stops => exact join_moves i stops hnew hlisted
  | draining controllers =>
    have hnone : ∀ s ∈ ([] : List (Nat × Stopping)), s.2.isOver = true :=
      fun s hs => absurd hs List.not_mem_nil
    have hdrain := drain_moves i t' controllers hnone hlisted
    rw [hnew, pollClosing, drain_stopping, List.append_nil]
    exact hdrain
  | finished moment =>
    rw [hnew]
    exact .single (setTask_move ⟨b, _⟩ i _ (fun s hs _ => hs) fun s hs => hs)

/-- A clean-up that goes on is a move of its stop. -/
theorem pollCleanUp_moves {n : Nat} {state : Stopping} (ht : b.tasks[i]? = some (.cleanUp n state)) :
    Docket.Moves b.docket
      ((b.pollCleanUp n state).2.setTask i (.cleanUp n (b.pollCleanUp n state).1)).docket := by
  obtain ⟨before, after, hstops, hset⟩ := stops_split ht
  rw [docket, docket, hset _ _ (pollCleanUp_tasks b n state), hstops]
  simp only [Task.stopping, List.append_assoc, List.cons_append, List.nil_append]
  have hpoll := Docket.Move.poll (d := ⟨b, before ++ (n, state) :: after⟩) before after n state rfl
  unfold pollCleanUp
  dsimp only at hpoll ⊢
  generalize b.pollStop n b.settings.grace state = polled at hpoll ⊢
  obtain ⟨state', b'⟩ := polled
  dsimp only at hpoll ⊢
  have hset' (d : Docket) : d.Move ⟨d.board.setTask i (.cleanUp n state'), d.stops⟩ :=
    setTask_move d i _ (fun s hs _ => hs) fun s hs => hs
  cases state' with
  | «over» outcome =>
    split_ifs
    · have hunregister := Docket.Move.unregister (d := ⟨b', before ++ (n, .over outcome) :: after⟩) n
        outcome (List.mem_append_right _ List.mem_cons_self)
      exact .head hpoll (.head hunregister (.single (hset' _)))
    · exact .head hpoll (.single (hset' _))
  | _ => exact .head hpoll (.single (hset' _))

/-- A loop that goes on moves no stop, but may return when its controller is cancelled. -/
theorem afterLoop_moves {n : Nat} {first : Bool} {state state' : Loop}
    (ht : b.tasks[i]? = some (.loop n first state))
    (hcancelled : state'.isFinished = true → b.isCancelled n = true) :
    Docket.Moves b.docket ((b.afterLoop n first state').setTask i (.loop n first state')).docket := by
  obtain ⟨before, after, hstops, hset⟩ := stops_split ht
  have hset' (d : Docket) : d.Move ⟨d.board.setTask i (.loop n first state'), d.stops⟩ :=
    setTask_move d i _ (fun s hs _ => hs) fun s hs => hs
  rw [docket, docket, hset _ _ (afterLoop_tasks b n first state'), hstops]
  unfold afterLoop
  split_ifs with hends
  · -- The loop returns, which it does only if the controller is cancelled.
    rw [Bool.and_eq_true] at hends
    have hfinish := Docket.Move.finish (d := ⟨b, before ++ [] ++ after⟩) n (hcancelled hends.1)
    exact .head hfinish (.single (hset' _))
  · exact .single (hset' ⟨b, _⟩)

end Board

def Task.isPlain : Task → Bool
  | .loop _ _ _ | .cleanUp _ _ => true
  | _ => false

def Task.isOrdinary : Task → Bool
  | .loop _ _ _ | .cleanUp _ _ | .shutdown _ => true
  | _ => false

theorem Task.isOrdinary_of_isPlain {t : Task} (h : t.isPlain = true) : t.isOrdinary = true := by
  cases t with
  | loop n first state => rfl
  | cleanUp n state => rfl
  | _ => cases h

namespace Fleet

variable {f : Fleet} {i : Nat} {t : Task}

/-- Loops and clean-ups stay what they are when they go on. -/
theorem step_tasks (ht : f.tasks[i]? = some t) (hplain : t.isPlain = true) :
    ∃ t', (f.step i).tasks = f.tasks.set i t' ∧ t'.isPlain = true := by
  cases t with
  | loop n first state =>
    rcases step_loop_cases ht with hboard | ⟨state', hboard⟩
    · refine ⟨.loop n first state, ?_, rfl⟩
      rw [Board.set_same ht]
      exact congrArg Board.tasks hboard
    · have htasks := congrArg Board.tasks hboard
      rw [Board.setTask, Board.afterLoop_tasks] at htasks
      exact ⟨_, htasks, rfl⟩
  | cleanUp n state =>
    have htasks := congrArg Board.tasks (step_cleanUp_board ht)
    rw [Board.setTask, Board.pollCleanUp_tasks] at htasks
    exact ⟨_, htasks, rfl⟩
  | _ => cases hplain

/-- A shutdown that goes on changes no other task. -/
theorem step_shutdown_tasks {state : Closing} (ht : f.tasks[i]? = some (.shutdown state)) :
    (f.step i).tasks = f.tasks.set i (.shutdown (f.board.pollClosing state).1) := by
  have htasks := congrArg Board.tasks (step_shutdown_board ht)
  rw [Board.setTask, Board.pollClosing_tasks] at htasks
  exact htasks

theorem step_shutdown_self {state : Closing} (ht : f.tasks[i]? = some (.shutdown state)) :
    (f.step i).tasks[i]? = some (.shutdown (f.board.pollClosing state).1) := by
  rw [step_shutdown_tasks ht]
  exact List.getElem?_set_self (List.getElem?_eq_some_iff.mp ht).1

theorem step_shutdown_other {state : Closing} (ht : f.tasks[i]? = some (.shutdown state)) {j : Nat}
    (hj : j ≠ i) : (f.step i).tasks[j]? = f.tasks[j]? := by
  rw [step_shutdown_tasks ht, List.getElem?_set_ne (Ne.symm hj)]

theorem step_shutdown_phase {state : Closing} (ht : f.tasks[i]? = some (.shutdown state)) :
    (f.step i).phase = (f.board.pollClosing state).2.phase :=
  congrArg Board.phase (step_shutdown_board ht)

/-- Tasks go on by moves of the stops that are under way. -/
theorem step_moves (ht : f.tasks[i]? = some t) (hordinary : t.isOrdinary = true)
    (hinterval : f.settings.interval ≠ 0) :
    Docket.Moves f.board.docket (f.step i).board.docket := by
  cases t with
  | loop n first state =>
    cases hstate : state.isFinished with
    | true =>
      cases state <;> cases hstate
      rw [step_finished ht]
    | false =>
      rw [step_loop_board ht hstate]
      refine Board.afterLoop_moves ht fun hfinished => ?_
      have hends : (f.pollLoop n first state).1 = .finished := by
        generalize (f.pollLoop n first state).1 = state' at hfinished
        cases state' with
        | finished => rfl
        | _ => cases hfinished
      rw [board_isCancelled]
      exact pollLoop_finished hinterval hstate hends
  | cleanUp n state =>
    rw [step_cleanUp_board ht]
    exact Board.pollCleanUp_moves ht
  | shutdown state =>
    rw [step_shutdown_board ht]
    exact Board.pollClosing_moves ht rfl rfl
  | _ => cases hordinary

end Fleet
end NatsFleet
