import NatsFleet.Fleet.Loop
import NatsFleet.Proofs.Board

/-!
The passes of controllers do not touch what an operator goes by, and whatever else happens does to it
what the board of the operator says.
-/
namespace NatsFleet
namespace Fleet

structure Fresh (f : Fleet) : Prop where
  registry : f.registry.entries = []
  controllers : f.controllers = []
  tasks : f.tasks = []
  isOpen : f.phase.isClosed = false
  root : f.cancelled = false

variable (f : Fleet) {n : Nat} {c : Controller}

@[simp] theorem board_note (e : Log.Entry) : (f.note e).board = f.board := rfl

@[simp] theorem board_setPlatform (name : String) (p : Platform) :
    (f.setPlatform name p).board = f.board := rfl

@[simp] theorem board_spawn (t : Task) : (f.spawn t).board = f.board.spawn t := rfl

theorem board_cards (n : Nat) : f.board.cards[n]? = (f.controller? n).map Controller.card := by
  simp [board, controller?]

theorem board_length : f.board.cards.length = f.controllers.length := List.length_map _

theorem board_isCancelled (n : Nat) : f.board.isCancelled n = f.isCancelled n := by
  rw [Board.isCancelled, board_cards, isCancelled]
  cases f.controller? n <;> rfl

variable {f}

/-- What the board knows of a controller is its card. -/
theorem board_card (hc : f.controller? n = some c) : f.board.cards[n]? = some c.card := by
  rw [board_cards, hc]
  rfl

theorem isCancelled_eq (hc : f.controller? n = some c) : f.isCancelled n = c.cancelled := by
  rw [isCancelled, hc]
  rfl

/-- The controllers that are to start no further pass are the cancelled ones. -/
theorem board_halted :
    f.board.Halted n ↔ ∃ c, f.controller? n = some c ∧ c.cancelled = true := by
  constructor
  · rintro ⟨card, hcard, hcancelled⟩
    rw [board_cards] at hcard
    obtain ⟨c, hc, rfl⟩ := Option.map_eq_some_iff.mp hcard
    exact ⟨c, hc, hcancelled⟩
  · rintro ⟨c, hc, hcancelled⟩
    exact ⟨c.card, board_card hc, hcancelled⟩

theorem board_active? (f : Fleet) (k : ClusterKey) : f.board.active? k = f.active? k := by
  have hregistry : f.board.registry = f.registry := rfl
  unfold Board.active? active?
  rw [hregistry]
  cases f.registry.find? k with
  | none => rfl
  | some n => simp only [board_isCancelled]

/-- A controller that changes its card changes no other one. -/
theorem cards_set (hc : f.controller? n = some c) {c' : Controller} {g : Card → Card}
    (hg : c'.card = g c.card) :
    (f.controllers.set n c').map Controller.card = (f.controllers.map Controller.card).modify n g := by
  ext1 m
  by_cases hm : n = m
  · subst hm
    have hlt : n < f.controllers.length := (List.getElem?_eq_some_iff.mp hc).1
    have hget : f.controllers[n]? = some c := hc
    rw [List.getElem?_map, List.getElem?_set_self hlt, List.getElem?_modify_eq, List.getElem?_map,
      hget, Option.map_some, hg]
    rfl
  · simp [List.getElem?_set_ne hm, List.getElem?_modify_ne _ _ hm]

/-- What is done to a controller is done to its card. -/
theorem board_setController (hc : f.controller? n = some c) {c' : Controller} {g : Card → Card}
    (hg : c'.card = g c.card) : (f.setController n c').board = f.board.change n g := by
  simp only [setController, board, Board.change, cards_set hc hg]

theorem board_changeController (n : Nat) {change : Controller → Controller} {g : Card → Card}
    (hg : ∀ c, (change c).card = g c.card) :
    (f.changeController n change).board = f.board.change n g := by
  simp only [changeController, board, Board.change, Board.map_modify _ _ hg]

/-! ## Passes -/

/-- A reply to a pass is nothing to the board. -/
theorem board_resume (hc : f.controller? n = some c) (stage : Pass.Stage) (reply : Reply) :
    (f.resume n c stage reply).2.board = f.board := by
  have hcards (memory : Memory) : (f.controllers.set n { c with memory := memory }).map
      Controller.card = f.controllers.map Controller.card := by
    have hcard : ({ c with memory := memory } : Controller).card = id c.card := rfl
    exact (cards_set hc hcard).trans (List.modify_id n _)
  simp only [resume, board, hcards]

theorem drive_board (f : Fleet) (n : Nat) (whole : Bool) (stage : Pass.Stage) :
    (f.drive n whole stage).2.board = f.board := by
  -- A request changes a platform, and its reply what a controller remembers: neither is on the board.
  fun_induction drive f n whole stage with
  | case1 => rfl
  | case2 => rfl
  | case3 => rfl
  | case4 => rfl
  | case5 => rfl
  | case6 f stage c hc request hrequest hwhole place taken hdelay reply p hreply next =>
    rename_i ih
    exact ih.trans (board_resume hc stage reply)
  | case7 => rfl

theorem pass_board (f : Fleet) (n : Nat) (whole : Bool) : (f.pass n whole).2.board = f.board := by
  unfold pass
  split
  · rfl
  · exact drive_board f n whole _

theorem land_board (f : Fleet) (n : Nat) (whole : Bool) (s : Standing) :
    (f.land n whole s).2.board = f.board := by
  unfold land
  split
  · rfl
  · rfl
  · rename_i flight c hc
    split
    · rfl
    · dsimp only
      split
      · rfl
      · rename_i reply p hreply
        exact (drive_board _ n whole _).trans (board_resume hc s.stage reply)

theorem changeSignal_board (f : Fleet) (n : Nat) (change : Signal → Signal) :
    (f.changeSignal n change).board = f.board := by
  have h : (f.changeSignal n change).board = f.board.change n id :=
    board_changeController n fun _ => rfl
  rw [h, Board.change_id]

theorem endLoop_board (f : Fleet) (n : Nat) (first : Bool) :
    (f.endLoop n first).2.board = f.board.afterLoop n first (f.endLoop n first).1 := by
  cases first with
  | false => rfl
  | true => exact board_changeController n fun _ => rfl

/-! ## Stops -/

theorem stop_board (f : Fleet) (n : Nat) : (f.stop n).board = f.board.change n Card.stop := by
  unfold stop
  split
  · rename_i hnone
    exact (f.board.change_none (by rw [board_cards, hnone]; rfl) _).symm
  · rename_i c hc
    exact board_setController hc rfl

theorem any_card (f : Fleet) (n : Nat) {P : Card → Bool} {Q : Controller → Bool}
    (hPQ : ∀ c : Controller, P c.card = Q c) :
    (f.board.cards[n]?).any P = (f.controller? n).any Q := by
  rw [board_cards]
  cases f.controller? n with
  | none => rfl
  | some c => exact hPQ c

/-- A step of a fleet does to its board what the step of a board does. -/
def Follows {α : Type} (r : α × Fleet) (r' : α × Board) : Prop := r.1 = r'.1 ∧ r.2.board = r'.2

theorem checkStop_follows (hc : f.controller? n = some c) (deadline : Nat) :
    Follows (f.checkStop n deadline) ((c.card.check f.now deadline).1,
      f.board.change n fun _ => (c.card.check f.now deadline).2) := by
  have hcard := board_card hc
  have hdone : c.card.done = c.done := rfl
  have hrelease : (f.changeController n fun c => { c with supervised := false }).board =
      f.board.change n fun _ => c.card.release :=
    (board_changeController n fun _ => rfl).trans (Board.change_congr hcard rfl)
  have hkeep : f.board = f.board.change n fun _ => c.card :=
    (f.board.change_id n).symm.trans (Board.change_congr hcard rfl)
  unfold checkStop Card.check
  rw [hc, hdone]
  dsimp only
  split_ifs
  · exact ⟨rfl, hrelease⟩
  · exact ⟨rfl, hrelease⟩
  · exact ⟨rfl, hkeep⟩

theorem checkStop_none (h : f.controller? n = none) (deadline : Nat) :
    f.checkStop n deadline = (.over .stopped, f) := by
  rw [checkStop, h]

theorem changeController_none (h : f.controller? n = none) (change : Controller → Controller) :
    f.changeController n change = f := by
  rw [changeController, List.modify_eq_self (List.getElem?_eq_none_iff.mp h)]

theorem controller?_changeController (hc : f.controller? n = some c)
    (change : Controller → Controller) :
    (f.changeController n change).controller? n = some (change c) := by
  have hget : f.controllers[n]? = some c := hc
  simp [controller?, changeController, hget]

theorem controller?_stop (hc : f.controller? n = some c) :
    (f.stop n).controller? n = some { c with cancelled := true } := by
  have hget : f.controllers[n]? = some c := hc
  unfold stop
  rw [hc]
  exact List.getElem?_set_self (List.getElem?_eq_some_iff.mp hget).1

theorem pollStop_none (h : f.controller? n = none) (grace : Nat) (state : Stopping) :
    Follows (f.pollStop n grace state) (f.board.pollStop n grace state) := by
  have hnone : f.board.cards[n]? = none := by rw [board_cards, h]; rfl
  have hboard (g : Card → Card) : f.board = f.board.change n g := (f.board.change_none hnone g).symm
  unfold Board.pollStop
  rw [hnone]
  cases state with
  | unborn =>
    have hstop : f.stop n = f := by rw [stop, h]
    unfold pollStop
    simp only [hstop, h, Option.any_none, Bool.false_eq_true, if_false, changeController_none h,
      checkStop_none h]
    exact ⟨rfl, hboard _⟩
  | waiting deadline =>
    rw [pollStop, checkStop_none h]
    exact ⟨rfl, hboard _⟩
  | «over» outcome => exact ⟨rfl, hboard _⟩

theorem pollStop_unborn (hc : f.controller? n = some c) (grace : Nat) :
    Follows (f.pollStop n grace .unborn) ((c.card.poll f.now grace .unborn).1,
      f.board.change n fun _ => (c.card.poll f.now grace .unborn).2) := by
  have hcard := board_card hc
  have hstop := f.stop_board n
  have hstopped := controller?_stop hc
  have hnow : (f.stop n).now = f.now := congrArg Board.now hstop
  have hawaited : c.card.awaited = c.awaited := rfl
  unfold pollStop Card.poll
  simp only [hstopped, Option.any_some, hawaited]
  by_cases hwait : c.awaited = true
  · rw [if_pos hwait, if_pos hwait]
    exact ⟨rfl, hstop.trans (Board.change_congr hcard rfl)⟩
  · rw [if_neg hwait, if_neg hwait]
    -- The three changes of the card are one after another on either side.
    have hwaiting := controller?_changeController hstopped fun c => { c with awaited := true }
    obtain ⟨hstate, hboard⟩ := checkStop_follows hwaiting (f.now + grace)
    have hbefore : ((f.stop n).changeController n fun c => { c with awaited := true }).board =
        (f.board.change n Card.stop).change n Card.await := by
      rw [← hstop]
      exact board_changeController n fun _ => rfl
    have hnow' : ((f.stop n).changeController n fun c => { c with awaited := true }).now = f.now :=
      hnow
    rw [hnow'] at hstate hboard
    rw [hbefore, Board.change_change, Board.change_change] at hboard
    rw [hnow]
    exact ⟨hstate, hboard.trans (Board.change_congr hcard rfl)⟩

/-- A stop does to the board what the board's own stop does. -/
theorem pollStop_follows (f : Fleet) (n grace : Nat) (state : Stopping) :
    Follows (f.pollStop n grace state) (f.board.pollStop n grace state) := by
  cases hc : f.controller? n with
  | none => exact pollStop_none hc grace state
  | some c =>
    have hcard := board_card hc
    have hnow : f.board.now = f.now := rfl
    rw [Board.pollStop_eq hcard, hnow]
    cases state with
    | unborn => exact pollStop_unborn hc grace
    | waiting deadline => exact checkStop_follows hc deadline
    | «over» outcome =>
      exact ⟨rfl, (f.board.change_id n).symm.trans (Board.change_congr hcard rfl)⟩

theorem pollStops_follows (f : Fleet) (grace : Nat) (stops : List (Nat × Stopping)) :
    Follows (f.pollStops grace stops) (f.board.pollStops grace stops) := by
  induction stops generalizing f with
  | nil => exact ⟨rfl, rfl⟩
  | cons stop rest ih =>
    obtain ⟨n, state⟩ := stop
    obtain ⟨hstate, hboard⟩ := pollStop_follows f n grace state
    obtain ⟨hrest, hboard'⟩ := ih (f.pollStop n grace state).2
    rw [hboard] at hrest hboard'
    unfold pollStops Board.pollStops
    dsimp only
    rw [← hstate, ← hrest]
    exact ⟨rfl, hboard'⟩

theorem pollCleanUp_follows (f : Fleet) (n : Nat) (state : Stopping) :
    Follows (f.pollCleanUp n state) (f.board.pollCleanUp n state) := by
  obtain ⟨hstate, hboard⟩ := pollStop_follows f n f.settings.grace state
  have hgrace : f.board.settings.grace = f.settings.grace := rfl
  have hcards : (f.board.pollStop n f.settings.grace state).2.cards[n]? =
      (f.controller? n).map fun c => (c.card.poll f.now f.settings.grace state).2 := by
    have hnow : f.board.now = f.now := rfl
    rw [Board.pollStop_cards, board_cards, Option.map_map, hnow]
    rfl
  unfold pollCleanUp Board.pollCleanUp Board.unregister
  rw [hgrace]
  cases state with
  | «over» outcome =>
    rw [Board.pollStop_over]
    exact ⟨rfl, rfl⟩
  | _ =>
    -- The key under which the controller is looked for is not touched by its stop.
    dsimp only
    rw [hcards]
    generalize f.pollStop n f.settings.grace _ = r at hstate hboard ⊢
    generalize f.board.pollStop n f.settings.grace _ = r' at hstate hboard ⊢
    obtain ⟨polled, g⟩ := r
    obtain ⟨polled', b⟩ := r'
    dsimp only at hstate hboard
    subst hstate hboard
    cases polled with
    | «over» outcome =>
      cases f.controller? n with
      | none => exact ⟨rfl, rfl⟩
      | some c =>
        have hkey : c.card.key = c.key := rfl
        refine ⟨rfl, ?_⟩
        simp only [Option.map_some, Card.poll_key, hkey, Stopping.isOver, Bool.not_false,
          Bool.and_self, if_true]
        split_ifs <;> rfl
    | _ => exact ⟨rfl, rfl⟩

/-! ## Shutdowns -/

theorem board_isDrained (f : Fleet) : f.board.isDrained = f.isDrained := by
  unfold Board.isDrained isDrained isReferenced
  rw [board_length]
  congr 1
  funext n
  rw [any_card (Q := fun c => c.supervised) _ _ fun _ => rfl]
  rfl

theorem board_cancel (f : Fleet) (phase : FleetPhase) :
    ({ f.cancel with phase := phase } : Fleet).board =
      { f.board with cancelled := true, cards := f.board.cards.map Card.stop, phase := phase } := by
  simp only [board, cancel, List.map_map]
  rfl

theorem drain_follows (f : Fleet) (controllers : List Nat) :
    Follows (f.drain controllers) (f.board.drain controllers) := by
  unfold drain Board.drain
  rw [board_isDrained]
  split_ifs
  · exact ⟨rfl, board_cancel f .stopped⟩
  · exact ⟨rfl, rfl⟩

theorem join_follows (f : Fleet) (stops : List (Nat × Stopping)) :
    Follows (f.join stops) (f.board.join stops) := by
  obtain ⟨hstops, hboard⟩ := pollStops_follows f f.settings.grace stops
  unfold join Board.join
  have hgrace : f.board.settings.grace = f.settings.grace := rfl
  dsimp only
  rw [hgrace, ← hboard, ← hstops]
  by_cases hover : (f.pollStops f.settings.grace stops).1.all (fun s => s.2.isOver) = true
  · rw [if_pos hover, if_pos hover]
    -- Stops that ran out of time are only told of.
    split_ifs
    · exact drain_follows _ _
    · exact drain_follows _ _
  · rw [if_neg hover, if_neg hover]
    exact ⟨rfl, rfl⟩

theorem pollClosing_follows (f : Fleet) (state : Closing) :
    Follows (f.pollClosing state) (f.board.pollClosing state) := by
  cases state with
  | unborn =>
    unfold pollClosing Board.pollClosing
    have hphase : f.board.phase = f.phase := rfl
    rw [hphase]
    split_ifs
    · exact ⟨rfl, rfl⟩
    · exact join_follows _ _
  | joining stops => exact join_follows f stops
  | draining controllers => exact drain_follows f controllers
  | finished moment => exact ⟨rfl, rfl⟩

/-! ## Changes -/

theorem spawnLoop_board (f : Fleet) (n : Nat) : (f.spawnLoop n).board =
    f.board.spawn (.loop n (!((f.controller? n).any (·.started))) .unborn) := by
  have hstarted : (f.changeController n fun c => { c with started := true }).board = f.board := by
    have h : (f.changeController n fun c => { c with started := true }).board =
        f.board.change n id := board_changeController n fun _ => rfl
    rw [h, Board.change_id]
  unfold spawnLoop
  rw [board_spawn, hstarted]

/-- To add a cluster does to the board what the board says. -/
theorem add_board (f : Fleet) (c : Cluster) : (f.add c).2.board = f.board.add c := by
  -- Making the namespace known is no change of the board, so it can be left out.
  have hplace : (f.setPlatform c.namespaceName (f.platform c.namespaceName)).board = f.board := rfl
  unfold add
  rw [← hplace]
  dsimp only
  generalize f.setPlatform c.namespaceName (f.platform c.namespaceName) = g
  have hcancelled : g.board.isCancelled = g.isCancelled := funext (board_isCancelled g)
  have hphase : g.board.phase = g.phase := rfl
  have hregistry : g.board.registry = g.registry := rfl
  unfold Board.add Registry.insert
  rw [hcancelled, hphase, hregistry, board_length]
  by_cases hclosed : g.phase.isClosed = true
  · rw [if_pos hclosed, if_pos (by rw [hclosed]; rfl)]
  · rw [if_neg hclosed]
    by_cases hholds : g.registry.holds g.isCancelled c.key = true
    · rw [if_pos hholds, if_pos (by rw [hholds, Bool.or_true])]
      rfl
    · rw [if_neg hholds, if_neg (by simp [hclosed, hholds])]
      dsimp only
      rw [spawnLoop_board, board_note]
      simp [board, Board.spawn, controller?, Controller.card, Controller.ofCluster, Card.ofCluster,
        note]

/-- An empty difference is between equal specs. -/
theorem eq_of_isEmpty {old new : ClusterSpec} (h : (SpecDiff.between old new).isEmpty = true) :
    old = new := by
  cases old
  cases new
  simp [SpecDiff.between, SpecDiff.isEmpty] at h
  simp [h]

theorem update_card (controller : Controller) (spec : ClusterSpec) :
    (controller.update spec).2.card = { controller.card with spec := spec } := by
  unfold Controller.update
  dsimp only
  split_ifs with hempty
  · -- The spec stays only if the new one is the same.
    rw [← eq_of_isEmpty hempty]
    rfl
  · rfl

theorem update_board (f : Fleet) (c : Cluster) : (f.update c).board = f.board.update c := by
  have hregistry : f.board.registry = f.registry := rfl
  unfold update Board.update active? Board.active?
  rw [hregistry]
  cases hfind : f.registry.find? c.key with
  | none => exact add_board _ c
  | some n =>
    dsimp only
    rw [board_isCancelled]
    by_cases hcancelled : f.isCancelled n = true
    · rw [if_pos hcancelled]
      exact add_board _ c
    · rw [if_neg hcancelled]
      dsimp only
      cases hc : f.controller? n with
      | none =>
        -- A controller that there is not counts as cancelled.
        rw [isCancelled, hc] at hcancelled
        exact absurd rfl hcancelled
      | some controller =>
        dsimp only
        rw [board_note]
        exact board_setController hc (update_card controller c.spec)

theorem delete_board (f : Fleet) (c : Cluster) : (f.delete c).board = f.board.delete c := by
  have hregistry : f.board.registry = f.registry := rfl
  unfold delete Board.delete
  rw [hregistry]
  cases hfind : f.registry.find? c.key with
  | none => rfl
  | some n =>
    dsimp only
    rw [board_spawn, stop_board, board_note]

theorem handle_board (f : Fleet) (change : Watch.Change) :
    (f.handle change).board = f.board.handle change := by
  have hphase : f.board.phase = f.phase := rfl
  unfold handle Board.handle
  rw [hphase]
  split_ifs
  · rfl
  · cases change with
    | added c => exact add_board f c
    | updated old c => exact update_board f c
    | deleted c => exact delete_board f c

/-! ## Tasks -/

variable {f : Fleet} {i n : Nat}

theorem step_none (h : f.tasks[i]? = none) : f.step i = f := by
  rw [step, h]

/-- The turn of a task changes what the operator goes by, and where the task stands. -/
theorem step_board {t : Task} (h : f.tasks[i]? = some t) :
    (f.step i).board = (f.run t).2.board.setTask i (f.run t).1 := by
  unfold step
  rw [h]
  rfl

theorem step_cleanUp_board {state : Stopping} (h : f.tasks[i]? = some (.cleanUp n state)) :
    (f.step i).board = (f.board.pollCleanUp n state).2.setTask i
      (.cleanUp n (f.board.pollCleanUp n state).1) := by
  obtain ⟨hstate, hboard⟩ := pollCleanUp_follows f n state
  rw [step_board h, ← hstate, ← hboard]
  rfl

theorem step_shutdown_board {state : Closing} (h : f.tasks[i]? = some (.shutdown state)) :
    (f.step i).board = (f.board.pollClosing state).2.setTask i
      (.shutdown (f.board.pollClosing state).1) := by
  obtain ⟨hstate, hboard⟩ := pollClosing_follows f state
  rw [step_board h, ← hstate, ← hboard]
  rfl

end Fleet
end NatsFleet
