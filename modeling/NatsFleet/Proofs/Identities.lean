import NatsFleet.Proofs.Traits

/-!
Controllers keep the identity that they were made with: passes, loops and stops change what a controller
remembers and the signals that reach it, and a new spec changes nothing else.
-/
namespace NatsFleet.Fleet

def identities (f : Fleet) : List Identity := f.controllers.map (·.identity)

variable {f : Fleet} {n : Nat} {c : Controller}

theorem identities_length (f : Fleet) : f.identities.length = f.board.cards.length := by
  rw [identities, List.length_map, board_length]

theorem identities_getElem? (f : Fleet) (n : Nat) :
    f.identities[n]? = (f.controller? n).map (·.identity) := List.getElem?_map

/-- A controller that keeps its identity changes none. -/
theorem identities_setController (hc : f.controller? n = some c) {c' : Controller}
    (h : c'.identity = c.identity) : (f.setController n c').identities = f.identities :=
  traits_setController hc h

theorem identities_changeController (f : Fleet) (n : Nat) {change : Controller → Controller}
    (h : ∀ c, (change c).identity = c.identity) :
    (f.changeController n change).identities = f.identities := traits_changeController f n h

/-- Passes leave all identities as they are. -/
theorem pass_identities (f : Fleet) (n : Nat) (whole : Bool) :
    (f.pass n whole).2.identities = f.identities := pass_traits (fun _ _ => rfl) f n whole

theorem land_identities (f : Fleet) (n : Nat) (whole : Bool) (s : Standing) :
    (f.land n whole s).2.identities = f.identities := land_traits (fun _ _ => rfl) f n whole s

/-! ## Loops -/

theorem changeSignal_identities (f : Fleet) (n : Nat) (change : Signal → Signal) :
    (f.changeSignal n change).identities = f.identities :=
  identities_changeController f n fun _ => rfl

theorem endLoop_identities (f : Fleet) (n : Nat) (first : Bool) :
    (f.endLoop n first).2.identities = f.identities := by
  cases first with
  | false => rfl
  | true => exact identities_changeController f n fun _ => rfl

/-- A pass that does not wait is followed by what is left of the turn. -/
theorem passed_identities {fuel : Nat} {first : Bool}
    (hturn : ∀ f tick, (turn fuel f n first tick).2.identities = f.identities) (g : Fleet)
    (tick : Nat) : (match g.pass n true with
      | (some s, g) => (Loop.passing s (some tick), g)
      | (none, g) => turn fuel g n first tick).2.identities = g.identities := by
  have hpass := pass_identities g n true
  split <;> rename_i heq <;> rw [heq] at hpass
  · exact hpass
  · exact (hturn _ _).trans hpass

theorem turn_identities (fuel : Nat) (f : Fleet) (n : Nat) (first : Bool) (tick : Nat) :
    (turn fuel f n first tick).2.identities = f.identities := by
  induction fuel generalizing f tick with
  | zero => rfl
  | succ fuel ih =>
    unfold turn
    split
    · rfl
    · -- The controller is looked at before each pass, and its signals change.
      split_ifs
      · exact (endLoop_identities _ n first).trans (changeSignal_identities f n Signal.leave)
      · exact (passed_identities ih _ _).trans (changeSignal_identities f n Signal.leave)
      · exact (passed_identities ih _ _).trans (changeSignal_identities f n Signal.take)
      · exact changeSignal_identities f n Signal.park

theorem afterPass_identities (f : Fleet) (n : Nat) (first : Bool) (tick : Option Nat) :
    (f.afterPass n first tick).2.identities = f.identities := by
  unfold afterPass
  split
  · exact turn_identities _ f n first _
  · split_ifs
    · exact endLoop_identities f n first
    · exact turn_identities _ f n first _

/-- However a loop goes on, all controllers work for the same objects. -/
theorem pollLoop_identities (f : Fleet) (n : Nat) (first : Bool) (state : Loop) :
    (f.pollLoop n first state).2.identities = f.identities := by
  cases state with
  | unborn =>
    unfold pollLoop
    dsimp only
    generalize hnoted : f.note ((Log.info "Starting cluster controller").within
      (((f.controller? n).map (·.span)).getD [])) = g
    have hg : g.identities = f.identities := hnoted ▸ rfl
    have hpass := (pass_identities g n true).trans hg
    split <;> rename_i heq <;> rw [heq] at hpass
    · exact hpass
    · exact (afterPass_identities _ n first none).trans hpass
  | passing s tick =>
    unfold pollLoop
    dsimp only
    have hland := land_identities f n true s
    split <;> rename_i heq <;> rw [heq] at hland
    · exact hland
    · exact (afterPass_identities _ n first tick).trans hland
  | waiting tick => exact turn_identities _ f n first tick
  | finished => rfl

theorem spawnLoop_identities (f : Fleet) (n : Nat) : (f.spawnLoop n).identities = f.identities := by
  have hstarted : (f.changeController n fun c => { c with started := true }).identities =
      f.identities := identities_changeController f n fun _ => rfl
  exact hstarted

/-! ## Stops -/

theorem stop_identities (f : Fleet) (n : Nat) : (f.stop n).identities = f.identities :=
  stop_traits (fun _ _ => rfl) f n

theorem pollCleanUp_identities (f : Fleet) (n : Nat) (state : Stopping) :
    (f.pollCleanUp n state).2.identities = f.identities :=
  pollCleanUp_traits (fun _ _ => rfl) (fun _ _ => rfl) (fun _ _ => rfl) f n state

end NatsFleet.Fleet
