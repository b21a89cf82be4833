import NatsFleet.Proofs.Closing
import NatsFleet.Proofs.Ticks

/-!
Histories of an operator: what has happened to it, and when its controllers' loops have returned and
their stops have begun.
-/
namespace NatsFleet

namespace Fleet

/-- What can happen to an operator: its runtime goes on, a change of a declared cluster is dealt with,
and the platforms change in any way. A shutdown may be called again, but only after a first call. -/
inductive Happens (called : Bool) (f : Fleet) : Fleet → Prop
  | tick {f' : Fleet} (h : f.Tick f') : Happens called f f'
  | handle (change : Watch.Change) : Happens called f (f.handle change)
  | outside (platforms : List (String × Platform)) :
      Happens called f { f with platforms := platforms }
  | again (h : called = true) : Happens called f (f.spawn (.shutdown .unborn))

end Fleet

/-- An operator, and since when the loop of each controller has returned and its first stop that is
waited for has begun. -/
structure Chronicle where
  fleet : Fleet
  returned : Nat → Option Nat := fun _ => none
  began : Nat → Option Nat := fun _ => none

namespace Chronicle

def next (h : Chronicle) (f : Fleet) : Chronicle where
  fleet := f
  returned n := stamp (h.returned n) ((f.controller? n).any (·.done)) f.now
  began n := stamp (h.began n) ((f.controller? n).any (·.awaited)) f.now

inductive Move (called : Bool) (h : Chronicle) : Chronicle → Prop
  | mk {f : Fleet} (hf : h.fleet.Happens called f) : Move called h (h.next f)

def call (h : Chronicle) : Chronicle :=
  h.next ((h.fleet.spawn (.shutdown .unborn)).step h.fleet.tasks.length)

structure Kept (s : Settings) (h : Chronicle) : Prop where
  sound : h.fleet.board.docket.Sound h.returned h.began
  seen : h.fleet.board.docket.Seen h.returned h.began
  settings : h.fleet.settings = s
  interval : s.interval ≠ 0

variable {s : Settings} {h : Chronicle} {f : Fleet}

theorem next_returned (h : Chronicle) (f : Fleet) :
    (h.next f).returned = f.board.docket.look Card.done h.returned := by
  funext n
  have hdone := Fleet.any_card f n (P := Card.done) (Q := Controller.done) fun _ => rfl
  have hcards : f.board.docket.board.cards[n]? = f.board.cards[n]? := rfl
  rw [Docket.look, hcards, hdone]
  rfl

theorem next_began (h : Chronicle) (f : Fleet) :
    (h.next f).began = f.board.docket.look Card.awaited h.began := by
  funext n
  have hawaited := Fleet.any_card f n (P := Card.awaited) (Q := Controller.awaited) fun _ => rfl
  have hcards : f.board.docket.board.cards[n]? = f.board.cards[n]? := rfl
  rw [Docket.look, hcards, hawaited]
  rfl

/-- Sound accounts under settings with a period are all there is to keep. -/
theorem kept_next (hsound : f.board.docket.Sound h.returned h.began)
    (hsettings : f.settings = s) (hinterval : s.interval ≠ 0) : (h.next f).Kept s := by
  refine ⟨?_, ?_, hsettings, hinterval⟩
  · rw [next_returned, next_began]
    exact hsound.look
  · rw [next_returned, next_began]
    exact Docket.seen_look _ _ _

theorem Kept.interval_ne (hkept : h.Kept s) : h.fleet.settings.interval ≠ 0 := by
  rw [hkept.settings]
  exact hkept.interval

theorem Kept.same (hkept : h.Kept s) (hboard : f.board = h.fleet.board) : (h.next f).Kept s := by
  have hsettings : f.settings = h.fleet.settings := congrArg Board.settings hboard
  refine kept_next ?_ (hsettings.trans hkept.settings) hkept.interval
  rw [hboard]
  exact hkept.sound

/-- A task that goes on moves the stops that are under way. -/
theorem Kept.moves (hkept : h.Kept s) {i : Nat} {t : Task} (ht : h.fleet.tasks[i]? = some t)
    (hordinary : t.isOrdinary = true) :
    Docket.Moves h.fleet.board.docket (h.fleet.step i).board.docket :=
  Fleet.step_moves ht hordinary hkept.interval_ne

/-- The accounts stay sound when a task goes on. -/
theorem Kept.step (hkept : h.Kept s) {i : Nat} {t : Task} (ht : h.fleet.tasks[i]? = some t)
    (hordinary : t.isOrdinary = true) : (h.next (h.fleet.step i)).Kept s := by
  have hmoves := hkept.moves ht hordinary
  have hsettings : (h.fleet.step i).settings = h.fleet.settings := hmoves.clock.2
  exact kept_next (hmoves.sound hkept.sound) (hsettings.trans hkept.settings) hkept.interval

/-- They stay sound when time goes by, as nothing has been due. -/
theorem Kept.elapse (hkept : h.Kept s) {moment : Nat} (hidle : h.fleet.readyTasks = [])
    (hlater : h.fleet.now < moment) (hdue : ∀ due, h.fleet.nextDue? = some due → moment ≤ due) :
    (h.next { h.fleet with now := moment }).Kept s := by
  have hquiet := Fleet.quiet hidle hdue
  exact kept_next (hkept.sound.elapse hkept.seen (Nat.le_of_lt hlater) hquiet) hkept.settings
    hkept.interval

end Chronicle

namespace Board

variable {b : Board}

structure Frame (b b' : Board) : Prop where
  settings : b'.settings = b.settings
  phase : b'.phase = b.phase
  tasks : ∀ t ∈ b'.tasks, t ∈ b.tasks ∨ t.isPlain = true

theorem Frame.refl (b : Board) : b.Frame b := ⟨rfl, rfl, fun _ ht => .inl ht⟩

theorem mem_concat_plain {tasks : List Task} {t u : Task} (hplain : u.isPlain = true)
    (ht : t ∈ tasks ++ [u]) : t ∈ tasks ∨ t.isPlain = true := by
  rcases List.mem_append.mp ht with ht | ht
  · exact .inl ht
  · obtain rfl := List.mem_singleton.mp ht
    exact .inr hplain

theorem add_frame (b : Board) (c : Cluster) : b.Frame (b.add c) := by
  unfold add
  split_ifs
  · exact .refl b
  · exact ⟨rfl, rfl, fun _ => mem_concat_plain rfl⟩

/-- Dealing with a change leaves the settings and the phase as they are, and starts loops and clean-ups
only. -/
theorem handle_frame (b : Board) (change : Watch.Change) : b.Frame (b.handle change) := by
  unfold handle
  split_ifs
  · exact .refl b
  · cases change with
    | added c => exact b.add_frame c
    | updated old c =>
      unfold update
      dsimp only
      split
      · exact b.add_frame c
      · exact ⟨rfl, rfl, fun _ ht => .inl ht⟩
    | deleted c =>
      unfold delete
      dsimp only
      split
      · exact .refl b
      · exact ⟨rfl, rfl, fun _ => mem_concat_plain rfl⟩

/-- Dealing with a change cancels nothing but the controllers that it stops. -/
theorem handle_cancelled (b : Board) (change : Watch.Change) :
    (b.handle change).cancelled = b.cancelled := by
  have hadd (c : Cluster) : (b.add c).cancelled = b.cancelled := by
    unfold add
    split_ifs <;> rfl
  unfold handle
  split_ifs
  · rfl
  · cases change with
    | added c => exact hadd c
    | updated old c =>
      unfold update
      dsimp only
      split
      · exact hadd c
      · rfl
    | deleted c =>
      unfold delete
      dsimp only
      split <;> rfl

theorem afterLoop_phase (b : Board) (n : Nat) (first : Bool) (state : Loop) :
    (b.afterLoop n first state).phase = b.phase := by
  unfold afterLoop
  split_ifs <;> rfl

theorem afterLoop_cancelled (b : Board) (n : Nat) (first : Bool) (state : Loop) :
    (b.afterLoop n first state).cancelled = b.cancelled := by
  unfold afterLoop
  split_ifs <;> rfl

theorem pollCleanUp_phase (b : Board) (n : Nat) (state : Stopping) :
    (b.pollCleanUp n state).2.phase = b.phase := by
  unfold pollCleanUp unregister
  dsimp only
  split_ifs
  · split <;> rfl
  · rfl

theorem pollCleanUp_cancelled (b : Board) (n : Nat) (state : Stopping) :
    (b.pollCleanUp n state).2.cancelled = b.cancelled := by
  unfold pollCleanUp unregister
  dsimp only
  split_ifs
  · split <;> rfl
  · rfl

end Board

namespace Fleet

/-- Loops and clean-ups never open or close an operator. -/
theorem step_plain_phase {f : Fleet} {i : Nat} {t : Task} (ht : f.tasks[i]? = some t)
    (hplain : t.isPlain = true) : (f.step i).phase = f.phase := by
  cases t with
  | loop n first state =>
    rcases step_loop_cases ht with hboard | ⟨state', hboard⟩
    · exact congrArg Board.phase hboard
    · exact (congrArg Board.phase hboard).trans (Board.afterLoop_phase _ _ _ _)
  | cleanUp n state =>
    exact (congrArg Board.phase (step_cleanUp_board ht)).trans (Board.pollCleanUp_phase _ _ _)
  | _ => cases hplain

/-- Loops and clean-ups do not cancel the scope of all controllers. -/
theorem step_plain_cancelled {f : Fleet} {i : Nat} {t : Task} (ht : f.tasks[i]? = some t)
    (hplain : t.isPlain = true) : (f.step i).cancelled = f.cancelled := by
  cases t with
  | loop n first state =>
    rcases step_loop_cases ht with hboard | ⟨state', hboard⟩
    · exact congrArg Board.cancelled hboard
    · exact (congrArg Board.cancelled hboard).trans (Board.afterLoop_cancelled _ _ _ _)
  | cleanUp n state =>
    exact (congrArg Board.cancelled (step_cleanUp_board ht)).trans (Board.pollCleanUp_cancelled _ _ _)
  | _ => cases hplain

end Fleet

namespace Chronicle

variable {s : Settings} {h h' : Chronicle} {f : Fleet}

/-- They stay sound when a change is dealt with. -/
theorem Kept.handle (hkept : h.Kept s) (change : Watch.Change) :
    (h.next (h.fleet.handle change)).Kept s := by
  have hboard := h.fleet.handle_board change
  have hsettings : (h.fleet.handle change).settings = h.fleet.settings :=
    (congrArg Board.settings hboard).trans (h.fleet.board.handle_frame change).settings
  refine kept_next ?_ (hsettings.trans hkept.settings) hkept.interval
  rw [hboard]
  exact Docket.handle_sound hkept.sound change

structure Open (s : Settings) (h : Chronicle) : Prop where
  kept : h.Kept s
  isOpen : h.fleet.phase.isClosed = false
  plain : ∀ t ∈ h.fleet.tasks, t.isPlain = true

/-- A new operator has nothing to account for. -/
theorem open_of_fresh (hfresh : f.Fresh) (hinterval : f.settings.interval ≠ 0) :
    Open f.settings { fleet := f } := by
  have hregistry : f.board.registry.entries = [] := hfresh.registry
  have hcards : f.board.cards = [] := congrArg (List.map Controller.card) hfresh.controllers
  have htasks : f.board.tasks = [] := hfresh.tasks
  have hnone (n : Nat) (c : Card) (hc : f.board.cards[n]? = some c) : False := by
    rw [hcards] at hc
    cases hc
  refine ⟨⟨⟨fun e he => ?_, fun _ => hfresh.root, fun s hs => ?_, fun _ _ => ⟨rfl, rfl⟩,
    fun hstopped => ?_, fun n c hc => (hnone n c hc).elim⟩, fun n c hc => (hnone n c hc).elim, rfl,
    hinterval⟩,
    hfresh.isOpen, fun t ht => ?_⟩
  · have he' : e ∈ f.board.registry.entries := he
    rw [hregistry] at he'
    cases he'
  · have hs' : s ∈ f.board.tasks.flatMap Task.stopping := hs
    rw [htasks] at hs'
    cases hs'
  · have hphase : f.phase = .stopped := hstopped
    have hisOpen := hfresh.isOpen
    rw [hphase] at hisOpen
    cases hisOpen
  · rw [hfresh.tasks] at ht
    cases ht

theorem Open.move (hopen : h.Open s) (hmove : h.Move false h') : h'.Open s := by
  obtain ⟨hf⟩ := hmove
  cases hf with
  | tick htick =>
    cases htick with
    | run i hready =>
      -- Before the first shutdown there are only loops and clean-ups, and these stay what they are.
      obtain ⟨t, ht, -⟩ := Fleet.mem_readyTasks.mp hready
      have hplain := hopen.plain t (List.mem_of_getElem? ht)
      obtain ⟨t', htasks, hplain'⟩ := Fleet.step_tasks ht hplain
      refine ⟨hopen.kept.step ht (Task.isOrdinary_of_isPlain hplain), ?_, fun u hu => ?_⟩
      · exact (congrArg FleetPhase.isClosed (Fleet.step_plain_phase ht hplain)).trans hopen.isOpen
      · have hu' : u ∈ (h.fleet.step i).tasks := hu
        rw [htasks] at hu'
        rcases List.mem_or_eq_of_mem_set hu' with hold | rfl
        · exact hopen.plain u hold
        · exact hplain'
    | elapse moment hidle hlater hdue =>
      exact ⟨hopen.kept.elapse hidle hlater hdue, hopen.isOpen, hopen.plain⟩
  | handle change =>
    have hframe := h.fleet.board.handle_frame change
    rw [← Fleet.handle_board] at hframe
    refine ⟨hopen.kept.handle change, ?_, fun t ht => ?_⟩
    · exact (congrArg FleetPhase.isClosed hframe.phase).trans hopen.isOpen
    · exact (hframe.tasks t ht).elim (hopen.plain t) id
  | outside platforms => exact ⟨hopen.kept.same rfl, hopen.isOpen, hopen.plain⟩
  | again hcalled => cases hcalled

/-- As long as no shutdown is called the operator stays open, and its accounts sound. -/
theorem Open.runs (hopen : h.Open s) (hruns : Relation.ReflTransGen (Move false) h h') : h'.Open s := by
  induction hruns with
  | refl => exact hopen
  | tail _ hmove ih => exact ih.move hmove

end Chronicle
end NatsFleet
