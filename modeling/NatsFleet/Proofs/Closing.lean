import NatsFleet.Proofs.Ledger

/-!
What going on with a shutdown leads to: it is under way still, or everything has ended, and from its
start on every controller is called to stop.
-/
namespace NatsFleet

def Closing.Waits : Closing → Prop
  | .joining stops => ∃ s ∈ stops, s.2.isOver = false
  | .draining _ => True
  | _ => False

namespace Board

variable {b : Board}

/-- After its last step a shutdown waits, or has stopped everything. -/
theorem drain_result (b : Board) (controllers : List Nat) : (b.drain controllers).1.Waits ∨
    (b.drain controllers).1 = .finished b.now ∧ (b.drain controllers).2.phase = .stopped := by
  unfold drain
  split_ifs
  · exact .inr ⟨rfl, rfl⟩
  · exact .inl trivial

theorem pollStops_now (b : Board) (grace : Nat) (stops : List (Nat × Stopping)) :
    (b.pollStops grace stops).2.now = b.now := by
  induction stops generalizing b with
  | nil => rfl
  | cons stop rest ih => exact ih (b.pollStop stop.1 grace stop.2).2

/-- The same holds after its stops have gone on. -/
theorem join_result (b : Board) (stops : List (Nat × Stopping)) : (b.join stops).1.Waits ∨
    (b.join stops).1 = .finished b.now ∧ (b.join stops).2.phase = .stopped := by
  have hnow := b.pollStops_now b.settings.grace stops
  unfold join
  dsimp only
  split_ifs with hall
  · rw [← hnow]
    exact drain_result _ _
  · refine .inl ?_
    simpa [Closing.Waits] using hall

/-- A shutdown that goes on is under way still, or everything has ended. -/
theorem pollClosing_result {state : Closing}
    (h : state.Waits ∨ state = .unborn ∧ b.phase.isClosed = false) :
    (b.pollClosing state).1.Waits ∨
      (b.pollClosing state).1 = .finished b.now ∧ (b.pollClosing state).2.phase = .stopped := by
  cases state with
  | unborn =>
    have hopen : b.phase.isClosed = false := (h.resolve_left id).2
    unfold pollClosing
    dsimp only
    rw [hopen, if_neg Bool.false_ne_true]
    exact join_result _ _
  | joining stops => exact join_result b stops
  | draining controllers => exact drain_result b controllers
  | finished moment => exact absurd (h.resolve_right nofun) id

/-- A shutdown changes the phase only once it is over. -/
theorem drain_phase (b : Board) (controllers : List Nat) :
    (b.drain controllers).2.phase = b.phase ∨ (b.drain controllers).2.phase = .stopped := by
  unfold drain
  split_ifs
  · exact .inr rfl
  · exact .inl rfl

theorem pollStops_phase (b : Board) (grace : Nat) (stops : List (Nat × Stopping)) :
    (b.pollStops grace stops).2.phase = b.phase := by
  induction stops generalizing b with
  | nil => rfl
  | cons stop rest ih => exact ih (b.pollStop stop.1 grace stop.2).2

theorem join_phase (b : Board) (stops : List (Nat × Stopping)) :
    (b.join stops).2.phase = b.phase ∨ (b.join stops).2.phase = .stopped := by
  have hphase := b.pollStops_phase b.settings.grace stops
  unfold join
  dsimp only
  split_ifs
  · rw [← hphase]
    exact drain_phase _ _
  · exact .inl hphase

/-- A shutdown that has had a turn leaves the operator closed. -/
theorem pollClosing_closed {state : Closing} (h : state = .unborn ∨ b.phase.isClosed = true) :
    (b.pollClosing state).2.phase.isClosed = true := by
  -- The phase only ever moves on.
  have hclosed {b b' : Board} (hb : b.phase.isClosed = true)
      (h : b'.phase = b.phase ∨ b'.phase = .stopped) : b'.phase.isClosed = true := by
    rcases h with h | h
    · rw [h, hb]
    · rw [h]
      rfl
  cases state with
  | unborn =>
    unfold pollClosing
    dsimp only
    split_ifs with hphase
    · exact hphase
    · exact hclosed rfl (join_phase { b with phase := .shuttingDown } _)
  | joining stops => exact hclosed (h.resolve_left nofun) (join_phase b stops)
  | draining controllers => exact hclosed (h.resolve_left nofun) (drain_phase b controllers)
  | finished moment => exact h.resolve_left nofun

theorem pollStops_cancelled (b : Board) (grace : Nat) (stops : List (Nat × Stopping)) :
    (b.pollStops grace stops).2.cancelled = b.cancelled := by
  induction stops generalizing b with
  | nil => rfl
  | cons stop rest ih => exact ih (b.pollStop stop.1 grace stop.2).2

def Leads (b b' : Board) : Prop :=
  b'.cancelled = true ∧ b'.phase = .stopped ∨
    b'.cancelled = b.cancelled ∧ (b'.phase = b.phase ∨ b'.phase = .shuttingDown)

theorem join_leads (b : Board) (stops : List (Nat × Stopping)) : b.Leads (b.join stops).2 := by
  have hphase := b.pollStops_phase b.settings.grace stops
  have hcancelled := b.pollStops_cancelled b.settings.grace stops
  unfold join drain
  dsimp only
  split_ifs
  · exact .inl ⟨rfl, rfl⟩
  · exact .inr ⟨hcancelled, .inl hphase⟩
  · exact .inr ⟨hcancelled, .inl hphase⟩

/-- A shutdown cancels the scope of all controllers at its end, or not at all. -/
theorem pollClosing_leads (b : Board) (state : Closing) : b.Leads (b.pollClosing state).2 := by
  cases state with
  | unborn =>
    unfold pollClosing
    dsimp only
    split_ifs
    · exact .inr ⟨rfl, .inl rfl⟩
    · rcases join_leads { b with phase := .shuttingDown } (b.registry.snapshot.map fun n =>
        (n, .unborn)) with hends | ⟨hcancelled, hphase⟩
      · exact .inl hends
      · exact .inr ⟨hcancelled, .inr (hphase.elim id id)⟩
  | joining stops => exact join_leads b stops
  | draining controllers =>
    unfold pollClosing drain
    dsimp only
    split_ifs
    · exact .inl ⟨rfl, rfl⟩
    · exact .inr ⟨rfl, .inl rfl⟩
  | finished moment => exact .inr ⟨rfl, .inl rfl⟩

def Called (b : Board) : Prop := ∀ (n : Nat) (c : Card), b.cards[n]? = some c → c.cancelled = true

/-- Every controller is called to stop when the stops begin. -/
theorem pollStops_called {grace : Nat} {stops : List (Nat × Stopping)}
    (h : ∀ (n : Nat) (c : Card), b.cards[n]? = some c →
      c.cancelled = true ∨ (n, Stopping.unborn) ∈ stops) : (b.pollStops grace stops).2.Called := by
  -- What goes on first calls its own controller; the others have their turn yet.
  induction stops generalizing b with
  | nil => exact fun n c hc => (h n c hc).resolve_right List.not_mem_nil
  | cons stop rest ih =>
    obtain ⟨m, state⟩ := stop
    refine ih fun n c' hc' => ?_
    rw [cards_pollStop] at hc'
    split_ifs at hc' with hm
    · subst hm
      obtain ⟨c, hc, rfl⟩ := Option.map_eq_some_iff.mp hc'
      rcases h m c hc with hcancelled | hmem
      · exact .inl (c.poll_cancelled _ _ _ hcancelled)
      · rcases List.mem_cons.mp hmem with heq | hmem
        · cases heq
          exact .inl (c.poll_unborn_cancelled _ _)
        · exact .inr hmem
    · refine (h n c' hc').imp_right fun hmem => ?_
      exact (List.mem_cons.mp hmem).resolve_left fun heq => hm (congrArg Prod.fst heq).symm

theorem join_called {stops : List (Nat × Stopping)}
    (h : ∀ (n : Nat) (c : Card), b.cards[n]? = some c →
      c.cancelled = true ∨ (n, Stopping.unborn) ∈ stops) : (b.join stops).2.Called := by
  have hpolled : (b.pollStops b.settings.grace stops).2.Called := pollStops_called h
  unfold join
  dsimp only
  split_ifs
  · unfold drain
    split_ifs
    · intro n c' hc'
      rw [shut, List.getElem?_map] at hc'
      obtain ⟨c, -, rfl⟩ := Option.map_eq_some_iff.mp hc'
      rfl
    · exact hpolled
  · exact hpolled

/-- Once a shutdown has begun, every controller has been called: one that works is registered. -/
theorem pollClosing_called {returned began : Nat → Option Nat} (h : b.docket.Sound returned began)
    (hopen : b.phase.isClosed = false) : (b.pollClosing .unborn).2.Called := by
  unfold pollClosing
  dsimp only
  rw [hopen, if_neg Bool.false_ne_true]
  refine join_called fun n c hc => ?_
  cases hcancelled : c.cancelled with
  | true => exact .inl rfl
  | false =>
    have hheld := (h.books n c hc).held_of_works hcancelled
    have hmem : n ∈ b.registry.snapshot := List.mem_map_of_mem (KeyMap.mem_of_find? _ _ hheld)
    exact .inr (List.mem_map.mpr ⟨n, hmem, rfl⟩)

end Board

namespace Docket

theorem Move.called {d d' : Docket} (hmove : d.Move d') (h : d.board.Called) : d'.board.Called := by
  have hchange (n : Nat) {g : Card → Card} (hg : ∀ c, c.cancelled = true → (g c).cancelled = true) :
      (d.board.change n g).Called :=
    d.board.forall_change (P := fun _ c => c.cancelled = true) (fun c hc => hg c (h n c hc))
      fun m c _ hc => h m c hc
  cases hmove with
  | poll before after n state hstops => exact hchange n fun c => c.poll_cancelled _ _ _
  | unregister n outcome hover =>
    unfold Board.unregister
    split
    · exact h
    · exact h
  | finish n hcancelled => exact hchange n fun _ hc => hc
  | arrange tasks stops hkeep hnew => exact h
  | close => exact h
  | shut hdrained hlisted =>
    intro n c' hc'
    dsimp only at hc'
    rw [Board.shut, List.getElem?_map] at hc'
    obtain ⟨c, -, rfl⟩ := Option.map_eq_some_iff.mp hc'
    rfl

/-- No controller that has been called to stop is called back. -/
theorem Moves.called {d d' : Docket} (hmoves : d.Moves d') (h : d.board.Called) : d'.board.Called := by
  induction hmoves with
  | refl => exact h
  | tail _ hmove ih => exact hmove.called ih

end Docket
end NatsFleet
