import NatsFleet.Proofs.Rounds

/-!
The loop of a controller beside a record of what its passes read, the latest pass first. The record says
which passes have begun.
-/
namespace NatsFleet

def Wish.read (w : Wish) (version : Nat) : Read := ⟨w.spec, version⟩

namespace Fleet

/-- A pass is made that is over at once and followed by something else, unless it has to wait. -/
def recordPass (now : Read) (f : Fleet) (n : Nat) (tick : Option Nat) (sights : List Sight)
    (next : Fleet → List Sight → (Loop × Fleet) × List Sight) : (Loop × Fleet) × List Sight :=
  match f.pass n true with
  | (some s, f) => ((.passing s tick, f), Sight.begun now (some s) :: sights)
  | (none, f) => next f (Sight.begun now none :: sights)

def recordTurn (now : Read) (n : Nat) (first : Bool) :
    Nat → Fleet → Nat → List Sight → (Loop × Fleet) × List Sight
  | 0, f, tick, sights => ((.waiting tick, f), sights)
  | fuel + 1, f, tick, sights =>
    match f.controller? n with
    | none => ((.finished, f), sights)
    | some c =>
      if c.cancelled then
        (((f.changeSignal n Signal.leave).note
          ((Log.info "Cluster controller stopped").within c.span)).endLoop n first, sights)
      else if tick ≤ f.now then
        recordPass now (f.changeSignal n Signal.leave) n (some (f.nextTick tick)) sights
          fun g sights => recordTurn now n first fuel g (f.nextTick tick) sights
      else if c.wake.isGiven then
        recordPass now ((f.changeSignal n Signal.take).note
          ((Log.debug "Spec changed, reconciling").within c.span)) n (some tick) sights
          fun g sights => recordTurn now n first fuel g tick sights
      else ((.waiting tick, f.changeSignal n Signal.park), sights)

def recordAfter (now : Read) (n : Nat) (first : Bool) (tick : Option Nat) (f : Fleet)
    (sights : List Sight) : (Loop × Fleet) × List Sight :=
  match tick with
  | some tick => recordTurn now n first turnFuel f tick sights
  | none =>
    if f.settings.interval = 0 then (f.endLoop n first, sights)
    else recordTurn now n first turnFuel f (f.now + f.settings.interval) sights

def recordLoop (version : Nat) (f : Fleet) (n : Nat) (first : Bool) (state : Loop)
    (sights : List Sight) : (Loop × Fleet) × List Sight :=
  match f.controller? n with
  | none => (f.pollLoop n first state, sights)
  | some c =>
    let now := c.wish.read version
    match state with
    | .unborn =>
      recordPass now (f.note ((Log.info "Starting cluster controller").within c.span)) n none sights
        (recordAfter now n first none)
    | .passing s tick =>
      match f.land n true s with
      | (some s, f) => ((.passing s tick, f), sights.modifyHead (·.reach now s.stage.isOpening))
      | (none, f) => recordAfter now n first tick f (sights.modifyHead (·.reach now false))
    | .waiting tick => recordTurn now n first turnFuel f tick sights
    | .finished => ((.finished, f), sights)

/-! ## The loop beside its record -/

variable {f g : Fleet} {n : Nat} {first : Bool} {now : Read} {sights : List Sight}

/-- Recording leaves the pass as it is. -/
theorem recordPass_fst {next : Fleet → List Sight → (Loop × Fleet) × List Sight}
    {after : Fleet → Loop × Fleet} (hnext : ∀ g sights, (next g sights).1 = after g) (f : Fleet)
    (tick : Option Nat) (sights : List Sight) :
    (recordPass now f n tick sights next).1 = match f.pass n true with
      | (some s, g) => (.passing s tick, g)
      | (none, g) => after g := by
  unfold recordPass
  split
  · rfl
  · exact hnext _ _

/-- It leaves the turn of the loop as it is. -/
theorem recordTurn_fst (fuel : Nat) (f : Fleet) (tick : Nat) (sights : List Sight) :
    (recordTurn now n first fuel f tick sights).1 = turn fuel f n first tick := by
  induction fuel generalizing f tick sights with
  | zero => rfl
  | succ fuel ih =>
    unfold recordTurn turn
    cases f.controller? n with
    | none => rfl
    | some c =>
      dsimp only
      split_ifs
      · rfl
      · exact recordPass_fst (fun g sights => ih g _ sights) _ _ _
      · exact recordPass_fst (fun g sights => ih g _ sights) _ _ _
      · rfl

theorem recordAfter_fst (tick : Option Nat) (f : Fleet) (sights : List Sight) :
    (recordAfter now n first tick f sights).1 = f.afterPass n first tick := by
  cases tick with
  | some tick => exact recordTurn_fst _ _ _ _
  | none =>
    unfold recordAfter afterPass
    dsimp only
    split_ifs
    · rfl
    · exact recordTurn_fst _ _ _ _

/-- The record changes nothing about the loop. -/
theorem recordLoop_fst (version : Nat) (f : Fleet) (n : Nat) (first : Bool) (state : Loop)
    (sights : List Sight) :
    (recordLoop version f n first state sights).1 = f.pollLoop n first state := by
  unfold recordLoop
  split
  · rfl
  · rename_i c hc
    cases state with
    | unborn =>
      simp only [pollLoop, hc, Option.map_some, Option.getD_some]
      exact recordPass_fst (fun g sights => recordAfter_fst none g sights) _ _ _
    | passing s tick =>
      unfold pollLoop
      dsimp only
      generalize f.land n true s = arrived
      obtain ⟨s', g⟩ := arrived
      cases s' with
      | none => exact recordAfter_fst _ _ _
      | some s' => rfl
    | waiting tick => exact recordTurn_fst _ _ _ _
    | finished => rfl

/-! ## The passes that begin -/

/-- So many passes have begun from one record to another, and each has read the same at first. -/
def Begins (now : Read) (count : Nat) (before after : List Sight) : Prop :=
  after.map (·.opening) = List.replicate count now ++ before.map (·.opening)

theorem begins_of_more {before after : List Sight}
    (h : ∃ count, Begins now (count + 1) before after) : ∃ count, Begins now count before after :=
  ⟨_, h.choose_spec⟩

/-- The first reading of a pass is what is present when it begins. -/
theorem begun_opening (now : Read) (arrived : Option Standing) :
    (Sight.begun now arrived).opening = now := Sight.reach_opening _ _ _

/-- A pass that begins reads what is present now. -/
theorem recordPass_begins {next : Fleet → List Sight → (Loop × Fleet) × List Sight}
    (hnext : ∀ g sights, ∃ count, Begins now count sights (next g sights).2) (f : Fleet)
    (tick : Option Nat) (sights : List Sight) :
    ∃ count, Begins now (count + 1) sights (recordPass now f n tick sights next).2 := by
  unfold recordPass
  split
  · rename_i s g heq
    refine ⟨0, ?_⟩
    rw [Begins, List.map_cons, begun_opening]
    rfl
  · rename_i g heq
    obtain ⟨count, hcount⟩ := hnext g (Sight.begun now none :: sights)
    refine ⟨count, ?_⟩
    rw [Begins, hcount, List.map_cons, begun_opening, List.replicate_succ', List.append_assoc]
    rfl

/-- A turn only begins passes that read what is present now. -/
theorem recordTurn_begins (fuel : Nat) (f : Fleet) (tick : Nat) (sights : List Sight) :
    ∃ count, Begins now count sights (recordTurn now n first fuel f tick sights).2 := by
  induction fuel generalizing f tick sights with
  | zero => exact ⟨0, rfl⟩
  | succ fuel ih =>
    unfold recordTurn
    split
    · exact ⟨0, rfl⟩
    · split_ifs
      · exact ⟨0, rfl⟩
      · exact begins_of_more (recordPass_begins (fun g sights => ih g _ sights) _ _ _)
      · exact begins_of_more (recordPass_begins (fun g sights => ih g _ sights) _ _ _)
      · exact ⟨0, rfl⟩

/-- A pass begins on a tick, and on a signal without one. -/
theorem recordTurn_begins_due {c : Controller} (hc : f.controller? n = some c)
    (hworks : c.cancelled = false) {tick : Nat} (hdue : tick ≤ f.now ∨ c.wake.isGiven = true)
    (fuel : Nat) (sights : List Sight) : ∃ count, Begins now (count + 1) sights
      (recordTurn now n first (fuel + 1) f tick sights).2 := by
  unfold recordTurn
  rw [hc]
  dsimp only
  rw [if_neg (ne_true_of_eq_false hworks)]
  split_ifs with htick hwake
  · exact recordPass_begins (fun g sights => recordTurn_begins fuel g _ sights) _ _ _
  · exact recordPass_begins (fun g sights => recordTurn_begins fuel g _ sights) _ _ _
  · exact absurd hdue (not_or_intro htick hwake)

/-- A loop that is woken by nothing, or for its end, begins no pass. -/
theorem recordTurn_idle {c : Controller} (hc : f.controller? n = some c) {tick : Nat}
    (hidle : c.cancelled = true ∨ f.now < tick ∧ c.wake.isGiven = false) (fuel : Nat)
    (sights : List Sight) : (recordTurn now n first fuel f tick sights).2 = sights := by
  cases fuel with
  | zero => rfl
  | succ fuel =>
    unfold recordTurn
    rw [hc]
    dsimp only
    split_ifs with hends htick hwake
    · rfl
    · rcases hidle with hcancelled | ⟨hearly, -⟩
      · exact absurd hcancelled hends
      · omega
    · rcases hidle with hcancelled | ⟨-, hquiet⟩
      · exact absurd hcancelled hends
      · exact absurd hwake (ne_true_of_eq_false hquiet)
    · rfl

/-- A controller that is cancelled begins none. -/
theorem recordTurn_cancelled (hcancelled : f.isCancelled n = true) (fuel tick : Nat)
    (sights : List Sight) : (recordTurn now n first fuel f tick sights).2 = sights := by
  cases hc : f.controller? n with
  | some c =>
    rw [isCancelled_eq hc] at hcancelled
    exact recordTurn_idle hc (.inl hcancelled) fuel sights
  | none =>
    cases fuel with
    | zero => rfl
    | succ fuel =>
      unfold recordTurn
      rw [hc]

theorem recordAfter_begins (tick : Option Nat) (f : Fleet) (sights : List Sight) :
    ∃ count, Begins now count sights (recordAfter now n first tick f sights).2 := by
  cases tick with
  | some tick => exact recordTurn_begins _ _ _ _
  | none =>
    unfold recordAfter
    dsimp only
    split_ifs
    · exact ⟨0, rfl⟩
    · exact recordTurn_begins _ _ _ _

/-- A signal that came during a pass is followed by another pass. -/
theorem recordAfter_begins_given {c : Controller} (hc : f.controller? n = some c)
    (hworks : c.cancelled = false) (hwake : c.wake.isGiven = true)
    (hinterval : f.settings.interval ≠ 0) (tick : Option Nat) (sights : List Sight) :
    ∃ count, Begins now (count + 1) sights (recordAfter now n first tick f sights).2 := by
  cases tick with
  | some tick => exact recordTurn_begins_due hc hworks (.inr hwake) 3 sights
  | none =>
    unfold recordAfter
    dsimp only
    rw [if_neg hinterval]
    exact recordTurn_begins_due hc hworks (.inr hwake) 3 sights

theorem recordAfter_cancelled (hcancelled : f.isCancelled n = true) (tick : Option Nat)
    (sights : List Sight) : (recordAfter now n first tick f sights).2 = sights := by
  cases tick with
  | some tick => exact recordTurn_cancelled hcancelled _ _ _
  | none =>
    unfold recordAfter
    dsimp only
    split_ifs
    · rfl
    · exact recordTurn_cancelled hcancelled _ _ _

/-- What a pass reads as it goes on begins no other. -/
theorem reach_begins (now now' : Read) (opening : Bool) (sights : List Sight) :
    Begins now' 0 sights (sights.modifyHead (·.reach now opening)) := by
  cases sights with
  | nil => rfl
  | cons sight older =>
    have hopening := sight.reach_opening now opening
    simp [Begins, hopening]

theorem Begins.reached {now' : Read} {opening : Bool} {count : Nat} {after : List Sight}
    (h : Begins now count (sights.modifyHead (·.reach now' opening)) after) :
    Begins now count sights after := by
  rw [Begins, h, reach_begins now' now opening sights]
  rfl

variable {c : Controller}

/-- The loop of a controller that has begun its first pass begins no other once it is cancelled. -/
theorem recordLoop_cancelled (hc : f.controller? n = some c) (hcancelled : c.cancelled = true)
    (version : Nat) (first : Bool) {state : Loop} (hborn : state ≠ .unborn) (sights : List Sight) :
    Begins (c.wish.read version) 0 sights (recordLoop version f n first state sights).2 := by
  have hends : f.isCancelled n = true := (isCancelled_eq hc).trans hcancelled
  unfold recordLoop
  rw [hc]
  cases state with
  | unborn => exact absurd rfl hborn
  | passing s tick =>
    have hland := land_board f n true s
    dsimp only
    split
    · exact reach_begins _ _ _ _
    · rename_i g heq
      rw [heq] at hland
      rw [← isCancelled_congr hland] at hends
      rw [recordAfter_cancelled hends]
      exact reach_begins _ _ _ _
  | waiting tick =>
    dsimp only
    rw [recordTurn_cancelled hends]
    rfl
  | finished => rfl

/-- A loop makes its first pass even if the controller has been cancelled by then, and no other. -/
theorem recordLoop_unborn_cancelled (hc : f.controller? n = some c) (hcancelled : c.cancelled = true)
    (version : Nat) (first : Bool) (sights : List Sight) :
    Begins (c.wish.read version) 1 sights (recordLoop version f n first .unborn sights).2 := by
  have hends : f.isCancelled n = true := (isCancelled_eq hc).trans hcancelled
  unfold recordLoop
  rw [hc]
  dsimp only
  unfold recordPass
  have hpass : ((f.note ((Log.info "Starting cluster controller").within c.span)).pass n
      true).2.board = f.board := pass_board _ n true
  split
  · rename_i s g heq
    rw [Begins, List.map_cons, begun_opening]
    rfl
  · rename_i g heq
    rw [heq] at hpass
    rw [← isCancelled_congr hpass] at hends
    rw [recordAfter_cancelled hends, Begins, List.map_cons, begun_opening]
    rfl

/-- A controller has something to make a pass for: its first one is due, or its signal is given. -/
def Owed (c : Controller) (state : Loop) : Prop := state = .unborn ∨ c.wake.isGiven = true

/-- A loop that owes a pass begins one when it goes on, unless the pass before it still waits. -/
theorem recordLoop_owed (hc : f.controller? n = some c) (hworks : c.cancelled = false)
    (hinterval : f.settings.interval ≠ 0) {state : Loop} (howed : Owed c state)
    (hstate : state ≠ .finished) (version : Nat) (first : Bool) (sights : List Sight) :
    (∃ s s' tick, state = .passing s tick ∧
      (recordLoop version f n first state sights).1.1 = .passing s' tick ∧
      Begins (c.wish.read version) 0 sights (recordLoop version f n first state sights).2) ∨
    ∃ count, Begins (c.wish.read version) (count + 1) sights
      (recordLoop version f n first state sights).2 := by
  unfold recordLoop
  rw [hc]
  cases state with
  | unborn => exact .inr (recordPass_begins (fun g sights => recordAfter_begins none g sights) _ _ _)
  | passing s tick =>
    have hwake : c.wake.isGiven = true := howed.resolve_left fun h => by cases h
    -- The rest of the pass takes no signal, so the one that is given is still there after it.
    have hland := land_board f n true s
    have hkept := land_traits (p := fun c => (c.cancelled, c.wake)) (fun _ _ => rfl) f n true s
    dsimp only
    split
    · rename_i s' g heq
      exact .inl ⟨s, s', tick, rfl, rfl, reach_begins _ _ _ _⟩
    · rename_i g heq
      rw [heq] at hland hkept
      obtain ⟨c', hc', hsame⟩ := controller?_of_traits hkept hc
      rw [Prod.mk.injEq] at hsame
      have hsettings : g.settings = f.settings := congrArg Board.settings hland
      have hworks' : c'.cancelled = false := hsame.1.trans hworks
      have hwake' : c'.wake.isGiven = true := by rw [hsame.2, hwake]
      have hinterval' : g.settings.interval ≠ 0 := by rw [hsettings]; exact hinterval
      exact .inr ((recordAfter_begins_given hc' hworks' hwake' hinterval' tick _).imp
        fun _ => Begins.reached)
  | waiting tick =>
    have hwake : c.wake.isGiven = true := howed.resolve_left fun h => by cases h
    exact .inr (recordTurn_begins_due hc hworks (.inr hwake) 3 sights)
  | finished => exact absurd rfl hstate

end Fleet

end NatsFleet
