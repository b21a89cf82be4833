import NatsFleet.Proofs.Docket
import NatsFleet.Proofs.Lifecycle

/-!
What can be done to an operator while its tasks go on, and what its dispatch loop does when it goes on: it
deals with the changes in its mailbox, or goes on with the shutdown that it ends with.
-/
namespace NatsFleet

def Closing.dispatching (now : Nat) : Closing → Dispatching
  | .finished _ => .finished now
  | state => .closing state

theorem Closing.dispatching_stopping (state : Closing) (mailbox : Mailbox) (now : Nat) :
    (Task.dispatch mailbox (state.dispatching now)).stopping = state.stopping := by
  cases state <;> rfl

def Board.Joined (b b' : Board) : Prop :=
  ∃ more, b'.tasks = b.tasks ++ more ∧ ∀ t ∈ more, t.isPlain = true

namespace Board

variable {b b' b'' : Board}

theorem Joined.refl (b : Board) : b.Joined b :=
  ⟨[], (List.append_nil _).symm, fun _ ht => absurd ht List.not_mem_nil⟩

theorem Joined.trans (h : b.Joined b') (h' : b'.Joined b'') : b.Joined b'' := by
  obtain ⟨more, htasks, hplain⟩ := h
  obtain ⟨more', htasks', hplain'⟩ := h'
  refine ⟨more ++ more', by rw [htasks', htasks, List.append_assoc], fun t ht => ?_⟩
  exact (List.mem_append.mp ht).elim (hplain t) (hplain' t)

theorem Joined.single {t : Task} (htasks : b'.tasks = b.tasks ++ [t]) (hplain : t.isPlain = true) :
    b.Joined b' :=
  ⟨[t], htasks, fun _ hu => List.mem_singleton.mp hu ▸ hplain⟩

/-- Each task keeps its number. -/
theorem Joined.getElem? (h : b.Joined b') {i : Nat} {t : Task} (ht : b.tasks[i]? = some t) :
    b'.tasks[i]? = some t := by
  obtain ⟨more, htasks, -⟩ := h
  rw [htasks, List.getElem?_append_left (List.getElem?_eq_some_iff.mp ht).1, ht]

/-- A task that has joined is a loop or a clean-up. -/
theorem Joined.mem (h : b.Joined b') {t : Task} (ht : t ∈ b'.tasks) :
    t ∈ b.tasks ∨ t.isPlain = true := by
  obtain ⟨more, htasks, hplain⟩ := h
  rw [htasks] at ht
  exact (List.mem_append.mp ht).imp_right (hplain t)

theorem add_joined (b : Board) (c : Cluster) : b.Joined (b.add c) := by
  unfold add
  split_ifs
  · exact .refl b
  · exact .single rfl rfl

/-- Dealing with a change starts loops and clean-ups only. -/
theorem handle_joined (b : Board) (change : Watch.Change) : b.Joined (b.handle change) := by
  unfold handle
  split_ifs
  · exact .refl b
  · cases change with
    | added c => exact b.add_joined c
    | updated old c =>
      unfold update
      dsimp only
      split
      · exact b.add_joined c
      · exact .refl b
    | deleted c =>
      unfold delete
      dsimp only
      split
      · exact .refl b
      · exact .single rfl rfl

end Board

namespace Fleet

variable {f : Fleet} {i : Nat} {mailbox : Mailbox}

/-- What can be done to an operator from outside, at any moment. Everything is cancelled only by somebody
who meddles. -/
inductive Prompt (meddled : Bool) (f : Fleet) : Fleet → Prop
  | handle (change : Watch.Change) : Prompt meddled f (f.handle change)
  | run (mailbox : Mailbox) : Prompt meddled f (f.spawn (.dispatch mailbox .unborn))
  | send (i : Nat) (change : Watch.Change) : Prompt meddled f (f.send i change).2
  | close (i : Nat) : Prompt meddled f (f.closeMailbox i)
  | shutdown : Prompt meddled f (f.spawn (.shutdown .unborn))
  | cancel (h : meddled = true) : Prompt meddled f f.cancel
  | elapse (moment : Nat) (h : f.now ≤ moment) : Prompt meddled f { f with now := moment }
  | outside (platforms : List (String × Platform)) :
      Prompt meddled f { f with platforms := platforms }

/-- What is done from outside can happen at any time. -/
theorem Prompt.occurs {meddled : Bool} {g : Fleet} (h : f.Prompt meddled g) : f.Occurs g := by
  cases h with
  | handle change => exact .handle change
  | run mailbox => exact .run mailbox
  | send i change => exact .send i change
  | close i => exact .close i
  | shutdown => exact .shutdown
  | cancel => exact .cancel
  | elapse moment => exact .elapse moment
  | outside platforms => exact .outside platforms

/-- What becomes of the tasks when a change is sent to a dispatch loop. -/
theorem send_cases (f : Fleet) (i : Nat) (change : Watch.Change) : (f.send i change).2 = f ∨
    ∃ (mailbox mailbox' : Mailbox) (state : Dispatching), mailbox'.isOpen = mailbox.isOpen ∧
      f.tasks[i]? = some (.dispatch mailbox state) ∧
        (f.send i change).2 = { f with tasks := f.tasks.set i (.dispatch mailbox' state) } := by
  unfold Fleet.send
  split
  · rename_i mailbox state ht _
    split_ifs
    · exact .inr ⟨mailbox, { mailbox with waiting := mailbox.waiting ++ [change] }, state, rfl, ht, rfl⟩
    · exact .inl rfl
  · exact .inl rfl

/-- What becomes of the tasks when no more changes come to a dispatch loop. -/
theorem closeMailbox_cases (f : Fleet) (i : Nat) : f.closeMailbox i = f ∨
    ∃ (mailbox : Mailbox) (state : Dispatching), f.tasks[i]? = some (.dispatch mailbox state) ∧
      f.closeMailbox i =
        { f with tasks := f.tasks.set i (.dispatch { mailbox with isOpen := false } state) } := by
  unfold closeMailbox
  split
  · rename_i mailbox state ht
    exact .inr ⟨mailbox, state, ht, rfl⟩
  · exact .inl rfl

def begun (f : Fleet) : Fleet :=
  (if f.phase = .starting then { f with phase := .running } else f).note (Log.info "Operator running")

def received (f : Fleet) (i : Nat) (mailbox : Mailbox) : Fleet :=
  let next := f.receive mailbox
  { next.2.2 with tasks := next.2.2.tasks.set i (.dispatch next.1 next.2.1) }

/-- The first turn of a dispatch loop opens the operator, and then deals with what waits. -/
theorem step_begins (ht : f.tasks[i]? = some (.dispatch mailbox .unborn)) :
    f.step i = f.begun.received i mailbox := by
  rw [step, ht]
  rfl

theorem step_receives (ht : f.tasks[i]? = some (.dispatch mailbox .receiving)) :
    f.step i = f.received i mailbox := by
  rw [step, ht]
  rfl

theorem pollDispatchClosing_eq (f : Fleet) (state : Closing) : f.pollDispatchClosing state =
    ((f.pollClosing state).1.dispatching (f.pollClosing state).2.now, (f.pollClosing state).2) := by
  unfold pollDispatchClosing
  generalize f.pollClosing state = next
  obtain ⟨state', g⟩ := next
  cases state' <;> rfl

theorem begun_board (f : Fleet) : f.begun.board =
    if f.phase = .starting then { f.board with phase := .running } else f.board := by
  unfold begun
  split_ifs <;> rfl

theorem begun_orderly (h : f.board.Orderly) : f.begun.board.Orderly := by
  rw [begun_board]
  split_ifs
  · exact ⟨h.linked, h.held, h.proper⟩
  · exact h

theorem begun_tasks (f : Fleet) : f.begun.tasks = f.tasks := by
  unfold begun
  split_ifs <;> rfl

/-- A dispatch loop that has returned does nothing any more. -/
theorem step_returned {moment : Nat}
    (ht : f.tasks[i]? = some (.dispatch mailbox (.finished moment))) : f.step i = f := by
  have hset : f.tasks.set i (.dispatch mailbox (.finished moment)) = f.tasks :=
    Board.set_same ht
  rw [step, ht]
  simp only [run, pollDispatch, hset]

/-- A dispatch loop that shuts down does what a shutdown does. -/
theorem step_closing_board {state : Closing}
    (ht : f.tasks[i]? = some (.dispatch mailbox (.closing state))) :
    (f.step i).board = (f.board.pollClosing state).2.setTask i (.dispatch mailbox
      ((f.board.pollClosing state).1.dispatching (f.board.pollClosing state).2.now)) := by
  obtain ⟨hstate, hboard⟩ := pollClosing_follows f state
  rw [step_board ht, ← hstate, ← hboard, run, pollDispatch]
  dsimp only
  rw [pollDispatchClosing_eq]
  rfl

/-- What becomes of a dispatch loop that looks into its mailbox: it ends if everything is cancelled, and
otherwise deals with all that waits there and waits for more, or shuts down if no more can come. -/
inductive Receives (f : Fleet) (i : Nat) (mailbox : Mailbox) : Board → Prop
  | cancelled (hroot : f.cancelled = true) :
      Receives f i mailbox (f.board.setTask i (.dispatch mailbox (.finished f.now)))
  | waits (hroot : f.cancelled = false) (hopen : mailbox.isOpen = true) :
      Receives f i mailbox ((f.handleAll mailbox.waiting).board.setTask i
        (.dispatch { mailbox with waiting := [] } .receiving))
  | ends {b : Board} {state : Closing} (hroot : f.cancelled = false)
      (hclosed : mailbox.isOpen = false)
      (hends : (f.handleAll mailbox.waiting).board.pollClosing .unborn = (state, b)) :
      Receives f i mailbox (b.setTask i
        (.dispatch { mailbox with waiting := [] } (state.dispatching b.now)))

theorem receive_cancelled (hroot : f.cancelled = true) (mailbox : Mailbox) :
    f.receive mailbox = (mailbox, .finished f.now, f) := by
  rw [receive, hroot, if_pos rfl]

theorem receive_waits (hroot : f.cancelled = false) (hopen : mailbox.isOpen = true) :
    f.receive mailbox =
      ({ mailbox with waiting := [] }, .receiving, f.handleAll mailbox.waiting) := by
  rw [receive, hroot, if_neg Bool.false_ne_true]
  exact if_pos hopen

/-- The changes have come to an end, and so does the loop, with a shutdown. -/
theorem receive_ends (hroot : f.cancelled = false) (hclosed : mailbox.isOpen = false) :
    f.receive mailbox = ({ mailbox with waiting := [] }, ((f.handleAll mailbox.waiting).note
      (Log.warn "Event stream ended, shutting down")).pollDispatchClosing .unborn) := by
  rw [receive, hroot, if_neg Bool.false_ne_true]
  exact if_neg (ne_true_of_eq_false hclosed)

/-- A dispatch loop ends, waits for more, or shuts down, and never stands anywhere else. -/
theorem received_cases (f : Fleet) (i : Nat) (mailbox : Mailbox) :
    f.Receives i mailbox (f.received i mailbox).board := by
  unfold received
  by_cases hroot : f.cancelled = true
  · rw [receive_cancelled hroot]
    exact .cancelled hroot
  · have hworks := eq_false_of_ne_true hroot
    by_cases hopen : mailbox.isOpen = true
    · rw [receive_waits hworks hopen]
      exact .waits hworks hopen
    · have hclosed := eq_false_of_ne_true hopen
      rw [receive_ends hworks hclosed, pollDispatchClosing_eq]
      obtain ⟨hstate, hboard⟩ := pollClosing_follows
        ((f.handleAll mailbox.waiting).note (Log.warn "Event stream ended, shutting down")) .unborn
      rw [board_note] at hstate hboard
      exact .ends hworks hclosed (Prod.ext hstate.symm hboard.symm)

theorem handleAll_joined (f : Fleet) (changes : List Watch.Change) :
    f.board.Joined (f.handleAll changes).board := by
  induction changes generalizing f with
  | nil => exact .refl _
  | cons change rest ih =>
    have hhandle := f.board.handle_joined change
    rw [← handle_board] at hhandle
    exact hhandle.trans (ih (f.handle change))

end Fleet
end NatsFleet
