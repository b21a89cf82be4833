import NatsFleet.Proofs.Chronicle
import NatsFleet.Proofs.Countdown
import NatsFleet.Proofs.Tracking
import Mathlib.Order.Bounds.Basic

/-!
A shutdown is complete once every stop is over that was not when it began, which takes at most the
grace period.
-/
namespace NatsFleet

def Closing.Idle : Closing → Prop
  | .unborn | .finished _ => True
  | _ => False

def Task.Aside (t : Task) : Prop := t.isPlain = true ∨ ∃ state, t = .shutdown state ∧ state.Idle

namespace Docket

variable {d : Docket} {returned began : Nat → Option Nat} {moment n : Nat}

/-- While no stop has anything to do and every controller has been called, somebody waits for each. -/
theorem Sound.awaited (h : d.Sound returned began) (hquiet : d.Quiet moment) (hcalled : d.board.Called)
    (n : Nat) (c : Card) (hc : d.board.cards[n]? = some c) : c.awaited = true := by
  have hbooks := h.books n c hc
  cases hbooks with
  | working _ hworks => exact absurd (hcalled n c hc) (by simp [hworks])
  | called _ _ _ hunborn => exact absurd rfl (hquiet n _ hunborn).1
  | awaited _ _ hawaited => exact hawaited
  | ended _ _ hawaited => exact hawaited

/-- A stop that is not complete has a deadline then, which has not come. -/
theorem Sound.deadline (h : d.Sound returned began) (hquiet : d.Quiet moment)
    (hcalled : d.board.Called) {c : Card} (hc : d.board.cards[n]? = some c)
    (hsupervised : c.supervised = true) : ∃ x, stamp (began n) c.awaited d.board.now = some x ∧
      moment ≤ x + d.board.settings.grace := by
  have hbooks := h.books n c hc
  cases hbooks with
  | working _ hworks => exact absurd (hcalled n c hc) (by simp [hworks])
  | called _ _ _ hunborn => exact absurd rfl (hquiet n _ hunborn).1
  | awaited x _ _ _ hwaits _ _ hbegan => exact ⟨x, hbegan, ((hquiet n _ hwaits).2 _ rfl).1⟩
  | ended _ _ _ hreleased => exact absurd hsupervised (by simp [hreleased])

/-- A stop that is waited for and has nothing to do is of a controller whose stop is not complete. -/
theorem Sound.waited (h : d.Sound returned began) (hquiet : d.Quiet moment)
    (hlater : d.board.now < moment) {state : Stopping} (hs : (n, state) ∈ d.stops)
    (hover : state.isOver = false) : ∃ c, d.board.cards[n]? = some c ∧ c.supervised = true := by
  obtain ⟨hunborn, hwaits⟩ := hquiet n state hs
  have hlt := h.known _ hs
  have hc : d.board.cards[n]? = some d.board.cards[n] := List.getElem?_eq_getElem hlt
  refine ⟨_, hc, ?_⟩
  cases state with
  | unborn => exact absurd rfl hunborn
  | «over» outcome => cases hover
  | waiting deadline =>
    obtain ⟨hdeadline, hdone⟩ := hwaits deadline rfl
    have hbooks := h.books n _ hc
    cases hbooks with
    | working _ _ _ _ hsupervised => exact hsupervised
    | called _ _ hsupervised => exact hsupervised
    | awaited x _ _ hsupervised => exact hsupervised
    | ended x _ _ _ hasks hreturned _ _ hended =>
      -- The loop has not returned, so the grace period would be over.
      obtain rfl := hasks deadline hs
      rw [hdone _ hc] at hreturned hended
      rw [Option.isSome_eq_false_iff, Option.isNone_iff_eq_none] at hreturned
      rw [hreturned] at hended
      have hended' : x + d.board.settings.grace ≤ d.board.now := hended
      omega

end Docket

namespace Board

variable {b : Board}

/-- Released controllers are drained. -/
theorem isDrained_of_released (h : b.Released) : b.isDrained = true := by
  refine List.all_eq_true.mpr fun n hn => ?_
  have hlt := List.mem_range.mp hn
  have hc : b.cards[n]? = some b.cards[n] := List.getElem?_eq_getElem hlt
  rw [hc, Option.any_some, h n _ hc]
  rfl

/-- A shutdown that is not the first one does nothing. -/
theorem pollClosing_idle {state : Closing} (h : state.Idle) (hclosed : b.phase.isClosed = true) :
    ∃ moment, b.pollClosing state = (.finished moment, b) := by
  cases state with
  | unborn =>
    refine ⟨b.now, ?_⟩
    unfold pollClosing
    exact if_pos hclosed
  | joining stops => exact h.elim
  | draining controllers => exact h.elim
  | finished moment => exact ⟨moment, rfl⟩

end Board

namespace Fleet

variable {f : Fleet} {j : Nat} {u : Task}

theorem ordinary_of_aside (h : u.Aside) : u.isOrdinary = true := by
  rcases h with hplain | ⟨state, rfl, -⟩
  · exact Task.isOrdinary_of_isPlain hplain
  · rfl

/-- Tasks on the side leave the others alone while the board is closed. -/
theorem step_aside (hu : f.tasks[j]? = some u) (haside : u.Aside)
    (hclosed : f.board.phase.isClosed = true) : ∃ u', (f.step j).board.tasks = f.board.tasks.set j u' ∧
      u'.Aside ∧ (f.step j).board.phase = f.board.phase := by
  rcases haside with hplain | ⟨state, rfl, hidle⟩
  · obtain ⟨u', htasks, hplain'⟩ := step_tasks hu hplain
    exact ⟨u', htasks, .inl hplain', step_plain_phase hu hplain⟩
  · obtain ⟨moment, hpoll⟩ := Board.pollClosing_idle hidle hclosed
    refine ⟨.shutdown (.finished moment), ?_, .inr ⟨_, rfl, trivial⟩, ?_⟩
    · rw [step_shutdown_board hu, hpoll]
      rfl
    · rw [step_shutdown_board hu, hpoll]
      rfl

end Fleet

namespace Chronicle

inductive Stands (t i : Nat) (pending : Nat → Prop) (h : Chronicle) : Prop
  | waits (state : Closing) (htask : h.fleet.board.tasks[i]? = some (.shutdown state))
      (hwaits : state.Waits)
      (hcount : h.fleet.board.docket.Countdown t h.fleet.board.now pending h.returned h.began)
  | finished (last : Nat) (htask : h.fleet.board.tasks[i]? = some (.shutdown (.finished last)))
      (hstopped : h.fleet.board.phase = .stopped)
      (hcount : h.fleet.board.docket.Countdown t last pending h.returned h.began)

structure Closed (s : Settings) (t i : Nat) (pending : Nat → Prop) (h : Chronicle) : Prop where
  kept : h.Kept s
  closed : h.fleet.board.phase.isClosed = true
  called : h.fleet.board.Called
  others : ∀ (j : Nat) (u : Task), j ≠ i → h.fleet.board.tasks[j]? = some u → u.Aside
  stands : h.Stands t i pending

variable {s : Settings} {t i : Nat} {pending : Nat → Prop} {h h' : Chronicle} {f : Fleet}

/-- The record keeps the countdown of every stop. -/
theorem next_countdown {last : Nat}
    (hcount : f.board.docket.Countdown t last pending h.returned h.began) :
    f.board.docket.Countdown t last pending (h.next f).returned (h.next f).began := by
  rw [next_returned, next_began]
  exact hcount.look

/-- A step that leaves the board alone leaves the shutdown where it is. -/
theorem Closed.same (hclosed : h.Closed s t i pending) (hboard : f.board = h.fleet.board) :
    (h.next f).Closed s t i pending := by
  refine ⟨hclosed.kept.same hboard, ?_, ?_, ?_, ?_⟩
  · exact hboard.symm ▸ hclosed.closed
  · exact hboard.symm ▸ hclosed.called
  · exact hboard.symm ▸ hclosed.others
  · cases hclosed.stands with
    | waits state htask hwaits hcount =>
      exact .waits state (hboard.symm ▸ htask) hwaits (next_countdown (hboard.symm ▸ hcount))
    | finished last htask hstopped hcount =>
      exact .finished last (hboard.symm ▸ htask) (hboard.symm ▸ hstopped)
        (next_countdown (hboard.symm ▸ hcount))

/-- Another task than the shutdown goes on. -/
theorem Closed.step_other (hclosed : h.Closed s t i pending) {j : Nat} {u : Task} (hj : j ≠ i)
    (hu : h.fleet.tasks[j]? = some u) : (h.next (h.fleet.step j)).Closed s t i pending := by
  have haside := hclosed.others j u hj hu
  have hordinary := Fleet.ordinary_of_aside haside
  have hmoves := hclosed.kept.moves hu hordinary
  obtain ⟨u', htasks, haside', hphase⟩ := Fleet.step_aside hu haside hclosed.closed
  have hself : (h.fleet.step j).board.tasks[i]? = h.fleet.board.tasks[i]? := by
    rw [htasks, List.getElem?_set_ne hj]
  -- Its moves are those of stops, which the countdown of the shutdown goes along with.
  refine ⟨hclosed.kept.step hu hordinary, ?_, hmoves.called hclosed.called, fun k v hk hv => ?_, ?_⟩
  · exact (congrArg FleetPhase.isClosed hphase).trans hclosed.closed
  · have hv' : (h.fleet.step j).board.tasks[k]? = some v := hv
    rw [htasks, List.getElem?_set] at hv'
    split_ifs at hv' with hjk
    · cases hv'
      exact haside'
    · exact hclosed.others k v hk hv'
  · cases hclosed.stands with
    | waits state htask hwaits hcount =>
      have hcount' := hmoves.countdown hclosed.kept.sound hcount
      have hnow : (h.fleet.step j).board.now = h.fleet.board.now := hmoves.clock.1
      rw [← hnow] at hcount'
      exact .waits state (hself.trans htask) hwaits (next_countdown hcount')
    | finished last htask hstopped hcount =>
      exact .finished last (hself.trans htask) (hphase.trans hstopped)
        (next_countdown (hmoves.countdown hclosed.kept.sound hcount))

/-- The step of the shutdown itself brings it on. -/
theorem Closed.step_self (hclosed : h.Closed s t i pending) :
    (h.next (h.fleet.step i)).Closed s t i pending := by
  -- Whatever the shutdown comes to, all but where it stands is kept.
  have hstep {state : Closing} (htask : h.fleet.board.tasks[i]? = some (.shutdown state))
      (hstands : (h.next (h.fleet.step i)).Stands t i pending) :
      (h.next (h.fleet.step i)).Closed s t i pending := by
    have hmoves := hclosed.kept.moves htask rfl
    refine ⟨hclosed.kept.step htask rfl, ?_, hmoves.called hclosed.called, fun k v hk hv => ?_, hstands⟩
    · exact (congrArg FleetPhase.isClosed (Fleet.step_shutdown_phase htask)).trans
        (Board.pollClosing_closed (.inr hclosed.closed))
    · exact hclosed.others k v hk ((Fleet.step_shutdown_other htask hk).symm.trans hv)
  cases hclosed.stands with
  | waits state htask hwaits hcount =>
    refine hstep htask ?_
    have hmoves := hclosed.kept.moves htask rfl
    have hnow : (h.fleet.step i).board.now = h.fleet.board.now := hmoves.clock.1
    have hcount' := hmoves.countdown hclosed.kept.sound hcount
    rw [← hnow] at hcount'
    have hself := Fleet.step_shutdown_self htask
    rcases Board.pollClosing_result (b := h.fleet.board) (.inl hwaits) with hwaits' | ⟨hover, hstopped⟩
    · exact .waits _ hself hwaits' (next_countdown hcount')
    · rw [hover, ← hnow] at hself
      exact .finished _ hself ((Fleet.step_shutdown_phase htask).trans hstopped) (next_countdown hcount')
  | finished last htask hstopped hcount =>
    refine hstep htask (.finished last (Fleet.step_shutdown_self htask) ?_ ?_)
    · exact (Fleet.step_shutdown_phase htask).trans hstopped
    · exact next_countdown ((hclosed.kept.moves htask rfl).countdown hclosed.kept.sound hcount)

/-- While the runtime stands still, a shutdown that is under way waits for a stop to be complete. -/
theorem exists_supervised (hkept : h.Kept s) {state : Closing}
    (htask : h.fleet.tasks[i]? = some (.shutdown state)) (hwaits : state.Waits) {moment : Nat}
    (hidle : h.fleet.readyTasks = []) (hlater : h.fleet.board.now < moment)
    (hquiet : h.fleet.board.docket.Quiet moment) :
    ∃ (n : Nat) (c : Card), h.fleet.board.cards[n]? = some c ∧ c.supervised = true := by
  have hready := Fleet.not_ready hidle (List.mem_of_getElem? htask)
  cases state with
  | joining stops =>
    obtain ⟨⟨n, state⟩, hs, hover⟩ := hwaits
    have hmem : (n, state) ∈ h.fleet.board.stops :=
      List.mem_flatMap.mpr ⟨_, List.mem_of_getElem? htask, hs⟩
    obtain ⟨c, hc, hsupervised⟩ := hkept.sound.waited hquiet hlater hmem hover
    exact ⟨n, c, hc, hsupervised⟩
  | draining controllers =>
    -- With every stop complete the shutdown would have something to do.
    by_contra hnone
    have hreleased : h.fleet.board.Released := by
      intro n c hc
      by_contra hs
      exact hnone ⟨n, c, hc, eq_true_of_ne_false hs⟩
    have hdrained : h.fleet.isDrained = true :=
      (Fleet.board_isDrained h.fleet).symm.trans (Board.isDrained_of_released hreleased)
    have hbusy : h.fleet.isDrained = false := hready
    rw [hdrained] at hbusy
    cases hbusy
  | _ => exact hwaits.elim

/-- Time only passes up to the next deadline. -/
theorem Closed.elapse (hclosed : h.Closed s t i pending) {moment : Nat}
    (hidle : h.fleet.readyTasks = []) (hlater : h.fleet.now < moment)
    (hdue : ∀ due, h.fleet.nextDue? = some due → moment ≤ due) :
    (h.next { h.fleet with now := moment }).Closed s t i pending := by
  have hquiet := Fleet.quiet hidle hdue
  have hawaited := hclosed.kept.sound.awaited hquiet hclosed.called
  have hle : h.fleet.board.now ≤ moment := Nat.le_of_lt hlater
  refine ⟨hclosed.kept.elapse hidle hlater hdue, hclosed.closed, hclosed.called, hclosed.others, ?_⟩
  cases hclosed.stands with
  | waits state htask hwaits hcount =>
    obtain ⟨n, c, hc, hsupervised⟩ :=
      exists_supervised hclosed.kept htask hwaits hidle hlater hquiet
    have hcount' := hcount.elapse hclosed.kept.seen hawaited hle (Nat.le_refl _) (fun _ => rfl)
      fun hreleased => absurd hreleased (Docket.not_released hc hsupervised)
    exact .waits state htask hwaits (next_countdown hcount')
  | finished last htask hstopped hcount =>
    have hreleased := (hclosed.kept.sound.ended hstopped).2
    have hcount' := hcount.elapse hclosed.kept.seen hawaited (Nat.le_refl last)
      (Nat.le_trans hcount.past hle) (fun hsome => absurd hreleased hsome) fun _ => rfl
    exact .finished last htask hstopped (next_countdown hcount')

theorem spawn_move (f : Fleet) :
    f.board.docket.Move (f.spawn (.shutdown .unborn)).board.docket := by
  have hstops : (f.spawn (.shutdown .unborn)).board.stops = f.board.stops := by
    simp [Board.spawn, Board.stops, Task.stopping, Closing.stopping]
  rw [Board.docket, Board.docket, hstops]
  exact .arrange _ _ (fun s hs _ => hs) fun s hs => .inl hs

/-- A second call does not disturb it. -/
theorem Closed.spawn (hclosed : h.Closed s t i pending) :
    (h.next (h.fleet.spawn (.shutdown .unborn))).Closed s t i pending := by
  have hmove := spawn_move h.fleet
  have hsame (j : Nat) {u : Task} (hu : h.fleet.board.tasks[j]? = some u) :
      (h.fleet.spawn (.shutdown .unborn)).board.tasks[j]? = some u :=
    (List.getElem?_append_left (List.getElem?_eq_some_iff.mp hu).1).trans hu
  refine ⟨kept_next (hmove.sound hclosed.kept.sound) hclosed.kept.settings hclosed.kept.interval,
    hclosed.closed, hclosed.called, fun j u hj hu => ?_, ?_⟩
  · have hu' : (h.fleet.board.tasks ++ [Task.shutdown .unborn])[j]? = some u := hu
    rw [List.getElem?_append] at hu'
    split_ifs at hu' with hlt
    · exact hclosed.others j u hj hu'
    · rw [List.getElem?_singleton] at hu'
      split_ifs at hu'
      cases hu'
      exact .inr ⟨_, rfl, trivial⟩
  · cases hclosed.stands with
    | waits state htask hwaits hcount =>
      exact .waits state (hsame i htask) hwaits
        (next_countdown (hmove.countdown hclosed.kept.sound hcount))
    | finished last htask hstopped hcount =>
      exact .finished last (hsame i htask) hstopped
        (next_countdown (hmove.countdown hclosed.kept.sound hcount))

theorem Closed.tick (hclosed : h.Closed s t i pending) (htick : h.fleet.Tick f) :
    (h.next f).Closed s t i pending := by
  cases htick with
  | run j hready =>
    by_cases hj : j = i
    · subst hj
      exact hclosed.step_self
    · obtain ⟨u, hu, -⟩ := Fleet.mem_readyTasks.mp hready
      exact hclosed.step_other hj hu
  | elapse moment hidle hlater hdue => exact hclosed.elapse hidle hlater hdue

/-- Hence each move leaves the shutdown under way or brings it on. -/
theorem Closed.move (hclosed : h.Closed s t i pending) (hmove : h.Move true h') :
    h'.Closed s t i pending := by
  obtain ⟨hf⟩ := hmove
  cases hf with
  | tick htick => exact hclosed.tick htick
  | handle change =>
    refine hclosed.same ?_
    rw [Fleet.handle_board]
    exact if_pos hclosed.closed
  | outside platforms => exact hclosed.same rfl
  | again => exact hclosed.spawn

theorem Closed.runs (hclosed : h.Closed s t i pending)
    (hruns : Relation.ReflTransGen (Move true) h h') : h'.Closed s t i pending := by
  induction hruns with
  | refl => exact hclosed
  | tail _ hmove ih => exact ih.move hmove

/-- The first call of a shutdown: what it has to wait for is what is not complete by then. -/
theorem Open.call (hopen : h.Open s) : h.call.Closed s h.fleet.now h.fleet.tasks.length
    (fun n => ∃ c, h.fleet.board.cards[n]? = some c ∧ c.supervised = true) := by
  let f := h.fleet.spawn (.shutdown .unborn)
  let i := h.fleet.tasks.length
  have hsound : f.board.docket.Sound h.returned h.began := (spawn_move h.fleet).sound hopen.kept.sound
  have htask : f.tasks[i]? = some (.shutdown .unborn) := List.getElem?_concat_length
  have hinterval : f.settings.interval ≠ 0 := hopen.kept.interval_ne
  have hmoves := Fleet.step_moves htask rfl hinterval
  have hnow : (f.step i).board.now = f.board.now := hmoves.clock.1
  have hphase := Fleet.step_shutdown_phase htask
  have hself := Fleet.step_shutdown_self htask
  have hcount : (f.step i).board.docket.Countdown h.fleet.now h.fleet.now
      (fun n => ∃ c, h.fleet.board.cards[n]? = some c ∧ c.supervised = true) h.returned h.began :=
    hmoves.countdown hsound hsound.countdown
  refine ⟨kept_next (hmoves.sound hsound) (hmoves.clock.2.trans hopen.kept.settings) hopen.kept.interval,
    ?_, ?_, fun j u hj hu => ?_, ?_⟩
  · exact (congrArg FleetPhase.isClosed hphase).trans (Board.pollClosing_closed (.inl rfl))
  · have hcalled : (f.step i).board.Called := by
      rw [Fleet.step_shutdown_board htask]
      exact Board.pollClosing_called hsound hopen.isOpen
    exact hcalled
  · -- All tasks but the new one were there before, so none of them is a shutdown.
    have hold : (h.fleet.tasks ++ [Task.shutdown .unborn])[j]? = some u :=
      (Fleet.step_shutdown_other htask hj).symm.trans hu
    have hlt : j < h.fleet.tasks.length := by
      have hle := (List.getElem?_eq_some_iff.mp hold).1
      rw [List.length_append, List.length_singleton] at hle
      omega
    rw [List.getElem?_append_left hlt] at hold
    exact .inl (hopen.plain u (List.mem_of_getElem? hold))
  · rcases Board.pollClosing_result (b := f.board) (.inr ⟨rfl, hopen.isOpen⟩) with
      hwaits | ⟨hover, hstopped⟩
    · have hnow' : h.fleet.now = (f.step i).board.now := hnow.symm
      exact .waits _ hself hwaits (next_countdown (hnow' ▸ hcount))
    · rw [hover] at hself
      exact .finished _ hself (hphase.trans hstopped) (next_countdown hcount)

/-! ## The end of a shutdown -/

def Over (i : Nat) (f : Fleet) : Prop :=
  ∃ moment, f.tasks[i]? = some (.shutdown (.finished moment))

/-- A shutdown that was called has cancelled all controllers. -/
theorem isCancelled_of_called (hcalled : f.board.Called) (n : Nat) : f.isCancelled n = true := by
  rw [← Fleet.board_isCancelled, Board.isCancelled]
  cases hc : f.board.cards[n]? with
  | none => rfl
  | some c => exact hcalled n c hc

/-- As long as a shutdown is under way, the runtime comes closer to its end. -/
theorem Closed.tick_lt (hclosed : h.Closed s t i pending) {state : Closing}
    (htask : h.fleet.board.tasks[i]? = some (.shutdown state)) (hwaits : state.Waits)
    (hcount : h.fleet.board.docket.Countdown t h.fleet.board.now pending h.returned h.began)
    (htick : h.fleet.Tick f) : Prod.Lex (· < ·) (· < ·) (t + s.grace - f.now, f.rank)
      (t + s.grace - h.fleet.now, h.fleet.rank) := by
  cases htick with
  | run j hready =>
    obtain ⟨u, hu, hready⟩ := Fleet.mem_readyTasks.mp hready
    have hordinary : u.isOrdinary = true := by
      by_cases hj : j = i
      · subst hj
        have hself : some u = some (.shutdown state) := hu.symm.trans htask
        cases hself
        rfl
      · exact Fleet.ordinary_of_aside (hclosed.others j u hj hu)
    have hinterval := hclosed.kept.interval_ne
    -- Time stands still, and the task that goes on has less to do afterwards.
    have hnow : (h.fleet.step j).now = h.fleet.now := (hclosed.kept.moves hu hordinary).clock.1
    rw [hnow]
    exact .right _ (Fleet.step_rank hinterval (isCancelled_of_called hclosed.called) hclosed.closed hu
      hordinary hready)
  | elapse moment hidle hlater hdue =>
    have hquiet := Fleet.quiet hidle hdue
    obtain ⟨n, c, hc, hsupervised⟩ :=
      exists_supervised hclosed.kept htask hwaits hidle hlater hquiet
    have hgrace : h.fleet.board.settings.grace = s.grace := by
      have hsettings : h.fleet.board.settings = s := hclosed.kept.settings
      rw [hsettings]
    -- Some stop is not complete, so its grace period is not over, and it began by `t`.
    have hbound : h.fleet.now < t + s.grace := by
      obtain ⟨x, hbegan, hdeadline⟩ :=
        hclosed.kept.sound.deadline hquiet hclosed.called hc hsupervised
      have hearly : x ≤ t := (hcount.portions n c hc).early x hbegan
      have hdeadline' : moment ≤ x + s.grace := hgrace ▸ hdeadline
      omega
    exact .left _ _ (Nat.sub_lt_sub_left hbound hlater)

/-- However the runtime goes on, a shutdown that has been called returns. -/
theorem Closed.inevitably {h : Chronicle} (hclosed : h.Closed s t i pending) :
    Fleet.Inevitably (Over i) h.fleet := by
  cases hclosed.stands with
  | finished last htask => exact .now ⟨last, htask⟩
  | waits state htask hwaits hcount =>
    refine .later h.fleet.exists_tick fun f htick => ?_
    have hlt := hclosed.tick_lt htask hwaits hcount htick
    exact (hclosed.tick htick).inevitably
termination_by (t + s.grace - h.fleet.now, h.fleet.rank)
decreasing_by exact hlt

def Pending (h : Chronicle) (n : Nat) : Prop :=
  ∃ c, h.fleet.controller? n = some c ∧ c.supervised = true

/-- The stop of a controller ends at a moment: when its loop returns, or when the grace period is over
since its first stop that is waited for began, whichever comes first. -/
def Ends (h : Chronicle) (n moment : Nat) : Prop :=
  ∃ x, h.began n = some x ∧ stopEnd h.fleet.settings.grace (h.returned n) x = moment

/-- A shutdown that was called in the history `h` and has returned at a moment, as the history `h'`
shows it. -/
structure Completes (h h' : Chronicle) (moment : Nat) : Prop where
  ends : ∀ n, h.Pending n → ∃ m, h'.Ends n m
  latest : (∃ n, h.Pending n) → IsGreatest {m | ∃ n, h.Pending n ∧ h'.Ends n m} moment
  prompt : (¬ ∃ n, h.Pending n) → moment = h.fleet.now
  bound : moment ≤ h.fleet.now + h.fleet.settings.grace
  cancelled : ∀ c ∈ h'.fleet.controllers, c.cancelled = true
  root : h'.fleet.cancelled = true
  stopped : h'.fleet.phase = .stopped

theorem pending_iff (h : Chronicle) (n : Nat) : h.Pending n ↔
    ∃ c, h.fleet.board.cards[n]? = some c ∧ c.supervised = true := by
  rw [Fleet.board_cards]
  constructor
  · rintro ⟨c, hc, hs⟩
    exact ⟨c.card, by rw [hc]; rfl, hs⟩
  · rintro ⟨card, hcard, hs⟩
    obtain ⟨c, hc, rfl⟩ := Option.map_eq_some_iff.mp hcard
    exact ⟨c, hc, hs⟩

/-- A stop ends when its loop has returned, or its grace is over. -/
theorem Kept.ends (hkept : h.Kept s) {n x : Nat} {c : Card}
    (hc : h.fleet.board.cards[n]? = some c)
    (hbegan : stamp (h.began n) c.awaited h.fleet.board.now = some x) :
    h.Ends n (stopEnd s.grace (stamp (h.returned n) c.done h.fleet.board.now) x) := by
  obtain ⟨hdone, hawaited⟩ := hkept.seen n c hc
  rw [stamp_eq hawaited] at hbegan
  rw [stamp_eq hdone]
  refine ⟨x, hbegan, ?_⟩
  rw [hkept.settings]

/-- A stop ends at one moment only. -/
theorem Ends.unique {n m m' : Nat} (hm : h.Ends n m) (hm' : h.Ends n m') : m = m' := by
  obtain ⟨x, hx, hend⟩ := hm
  obtain ⟨x', hx', hend'⟩ := hm'
  cases hx.symm.trans hx'
  exact hend.symm.trans hend'

/-- Every stop that a shutdown waited for ended while it did. -/
theorem ends_of_pending {last n : Nat} (hkept : h'.Kept s) (hreleased : h'.fleet.board.Released)
    (hcount : h'.fleet.board.docket.Countdown t last h.Pending h'.returned h'.began)
    (hn : h.Pending n) : ∃ m, h'.Ends n m ∧ t ≤ m ∧ m ≤ last := by
  have hlt : n < h'.fleet.board.cards.length := hcount.known n hn
  have hc : h'.fleet.board.cards[n]? = some h'.fleet.board.cards[n] := List.getElem?_eq_getElem hlt
  have hsupervised := hreleased n _ hc
  obtain ⟨-, x, hbegan, -⟩ := (hkept.sound.books n _ hc).released hsupervised
  have hportion := hcount.portions n _ hc
  have hgrace : h'.fleet.board.docket.board.settings.grace = s.grace :=
    congrArg Settings.grace hkept.settings
  have hlower := hportion.lower hn x hbegan
  have hupper := hportion.upper hsupervised x hbegan
  rw [hgrace] at hlower hupper
  exact ⟨_, hkept.ends hc hbegan, hlower, hupper⟩

/-- When the shutdown is over it has completed at the latest of these moments. -/
theorem Closed.completes (hclosed : h'.Closed s h.fleet.now i h.Pending)
    (hsettings : h.fleet.settings = s) {moment : Nat}
    (hover : h'.fleet.tasks[i]? = some (.shutdown (.finished moment))) :
    h.Completes h' moment := by
  have hkept := hclosed.kept
  cases hclosed.stands with
  | waits state htask hwaits =>
    have hsame : some (Task.shutdown state) = some (.shutdown (.finished moment)) :=
      htask.symm.trans hover
    cases hsame
    exact hwaits.elim
  | finished last htask hstopped hcount =>
    obtain rfl : last = moment := by
      have hsame : some (Task.shutdown (.finished last)) = some (.shutdown (.finished moment)) :=
        htask.symm.trans hover
      cases hsame
      rfl
    obtain ⟨hroot, hreleased⟩ := hkept.sound.ended hstopped
    have hgrace : h'.fleet.board.docket.board.settings.grace = s.grace :=
      congrArg Settings.grace hkept.settings
    have hends {n : Nat} (hn : h.Pending n) := ends_of_pending hkept hreleased hcount hn
    refine ⟨fun n hn => ?_, fun hsome => ⟨?_, ?_⟩, fun hnone => ?_, ?_, fun c hc => ?_, hroot, hstopped⟩
    · obtain ⟨m, hm, -⟩ := hends hn
      exact ⟨m, hm⟩
    · rcases hcount.reached hreleased with hstart | ⟨n, c, hc, hn, x, hbegan, hend⟩
      · -- All stops have ended the moment the shutdown began.
        obtain ⟨n, hn⟩ := hsome
        obtain ⟨m, hm, hlower, hupper⟩ := hends hn
        obtain rfl : m = last := by omega
        exact ⟨n, hn, hm⟩
      · rw [hgrace] at hend
        exact ⟨n, hn, hend ▸ hkept.ends hc hbegan⟩
    · rintro m ⟨n, hn, hm⟩
      obtain ⟨m', hm', -, hupper⟩ := hends hn
      exact (hm.unique hm').trans_le hupper
    · rcases hcount.reached hreleased with hstart | ⟨n, c, hc, hn, -⟩
      · exact hstart
      · exact absurd ⟨n, hn⟩ hnone
    · rw [hsettings]
      rcases hcount.reached hreleased with hstart | ⟨n, c, hc, hn, x, hbegan, hend⟩
      · omega
      · have hearly : x ≤ h.fleet.now := (hcount.portions n c hc).early x hbegan
        have hle := stopEnd_le s.grace (stamp (h'.returned n) c.done h'.fleet.board.docket.board.now) x
        rw [hgrace] at hend
        omega
    · obtain ⟨n, hn⟩ := List.mem_iff_getElem?.mp hc
      have hcard : h'.fleet.board.cards[n]? = some c.card := by
        rw [Fleet.board_cards, Fleet.controller?, hn]
        rfl
      exact hclosed.called n c.card hcard

/-- The first shutdown of an operator returns, however the runtime goes on, and it returns when the
last stop ends of those that were not complete when it was called, or at once if there is none: at
the latest after the grace period. Then every controller ever accepted is cancelled, and so is the scope
of all controllers. Whatever happened to the operator before, and whatever happens meanwhile. -/
theorem shutdown_completes {f : Fleet} {h h' : Chronicle} (hfresh : f.Fresh)
    (hinterval : 0 < f.settings.interval)
    (hbefore : Relation.ReflTransGen (Move false) { fleet := f } h)
    (hafter : Relation.ReflTransGen (Move true) h.call h') :
    Fleet.Inevitably (Over h.fleet.tasks.length) h'.fleet ∧ ∀ moment,
      h'.fleet.tasks[h.fleet.tasks.length]? = some (.shutdown (.finished moment)) →
        h.Completes h' moment := by
  have hopen := (open_of_fresh hfresh (Nat.pos_iff_ne_zero.mp hinterval)).runs hbefore
  have hpending : (fun n => ∃ c, h.fleet.board.cards[n]? = some c ∧ c.supervised = true) = h.Pending :=
    funext fun n => propext (h.pending_iff n).symm
  have hcall := hopen.call
  rw [hpending] at hcall
  have hclosed := hcall.runs hafter
  exact ⟨hclosed.inevitably, fun moment hover => hclosed.completes hopen.kept.settings hover⟩

def stuckFleet : Fleet where
  draws := ⟨id, 0⟩
  layout := fun _ => { always := [(.createService, .stalls)] }

def declared : Fleet := stuckFleet.handle (.added (Tracking.sample 1))

def stuckController : Controller := declared.controllers.get ⟨0, by decide⟩

def stuckRequest : Request :=
  ((Pass.start stuckController.identity stuckController.spec).request?
    stuckController.identity).get rfl

def stalledFleet : Fleet := declared.stalled 0 0 true stuckController stuckRequest

def stuck : Chronicle :=
  ((next { fleet := stuckFleet } declared).next stalledFleet).next { stalledFleet with now := 10 }

def givenUp : Chronicle :=
  let late := stuck.call.next { stuck.call.fleet with now := 10010 }
  late.next (late.fleet.step 1)

theorem declared_step : declared.step 0 = stalledFleet := Fleet.step_stalls rfl rfl rfl rfl

theorem stuck_runs : Relation.ReflTransGen (Move false) { fleet := stuckFleet } stuck := by
  have hpass : Fleet.Tick declared stalledFleet := declared_step ▸ .run 0 (by decide +kernel)
  refine .tail (.tail (.tail .refl (.mk (.handle (.added (Tracking.sample 1))))) (.mk (.tick hpass)))
    (.mk (.tick (.elapse 10 ?_ ?_ ?_)))
  · decide +kernel
  · decide +kernel
  · intro due h
    have hnone : stalledFleet.nextDue? = none := by decide +kernel
    cases hnone.symm.trans h

theorem givenUp_runs : Relation.ReflTransGen (Move true) stuck.call givenUp := by
  refine .tail (.tail .refl (.mk (.tick (.elapse 10010 ?_ ?_ ?_)))) (.mk (.tick (.run 1 ?_)))
  · decide +kernel
  · decide +kernel
  · intro due h
    have hsome : Fleet.nextDue? stuck.call.fleet = some 10010 := by decide +kernel
    cases hsome.symm.trans h
    exact Nat.le_refl _
  · decide +kernel

theorem shutdown_completes_stuck : stuck.Pending 0 ∧ stuck.Completes givenUp 10010 := by
  have hfresh : Fleet.Fresh stuckFleet := ⟨rfl, rfl, rfl, rfl, rfl⟩
  have hover : givenUp.fleet.tasks[stuck.fleet.tasks.length]? =
      some (.shutdown (.finished 10010)) := rfl
  exact ⟨⟨_, rfl, rfl⟩,
    (shutdown_completes hfresh (by decide) stuck_runs givenUp_runs).2 10010 hover⟩

end Chronicle
end NatsFleet
