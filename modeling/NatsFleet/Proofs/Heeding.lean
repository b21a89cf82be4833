import NatsFleet.Proofs.Recording

/-!
A controller heeds the spec that it has been given last: its latest pass reads that spec, or its signal is
given and another pass is to follow. Its loop keeps to that whatever the passes meet.
-/
namespace NatsFleet

namespace Signal

theorem give_isGiven (s : Signal) : s.give.isGiven = true := by
  unfold give isGiven
  split_ifs <;> simp

theorem park_isGiven (s : Signal) : s.park.isGiven = s.isGiven := rfl

end Signal

namespace Wish

def signalled (w : Wish) (wake : Signal) : Wish := { w with wake := wake }

variable {w : Wish} {version : Nat} {sights : List Sight} {state : Loop}

/-- The latest pass reads the present spec, or another pass is to follow. -/
def Abreast (w : Wish) (version : Nat) (sight : Sight) : Prop :=
  w.wake.isGiven = true ∨ sight.Current (w.read version)

/-- What the record of a loop has to do with what the controller goes by. -/
inductive Heeds (w : Wish) (version : Nat) : List Sight → Loop → Prop
  | unborn : Heeds w version [] .unborn
  | passing {sight : Sight} {older : List Sight} {s : Standing} {tick : Option Nat}
      (habreast : w.Abreast version sight) (hfits : sight.Fits w.identity s.stage) :
      Heeds w version (sight :: older) (.passing s tick)
  | waiting {sight : Sight} {older : List Sight} {tick : Nat} (habreast : w.Abreast version sight)
      (hwhole : sight.rest.isSome = true) : Heeds w version (sight :: older) (.waiting tick)
  | finished {sight : Sight} {older : List Sight} : Heeds w version (sight :: older) .finished

/-- A pass that gets on reads what is present now. -/
theorem Abreast.reach {sight : Sight} (h : w.Abreast version sight) (opening : Bool) :
    w.Abreast version (sight.reach (w.read version) opening) :=
  h.imp_right fun hcurrent => hcurrent.reach opening

theorem Abreast.signalled {sight : Sight} (h : w.Abreast version sight) {wake : Signal}
    (hwake : wake.isGiven = w.wake.isGiven) : (w.signalled wake).Abreast version sight :=
  h.imp_left fun hgiven => hwake.trans hgiven

/-- A loop that waits without a signal has read the present spec both times. -/
theorem Heeds.parked {tick : Nat} (h : w.Heeds version sights (.waiting tick))
    (hquiet : w.wake.isGiven = false) :
    ∃ older, sights = ⟨w.read version, some (w.read version)⟩ :: older := by
  cases h with
  | @waiting sight older _ habreast hwhole =>
    have hcurrent := habreast.resolve_left (ne_true_of_eq_false hquiet)
    exact ⟨older, by rw [hcurrent.eq hwhole]⟩

/-- A controller that has been given another spec owes a pass. -/
theorem Heeds.given (h : w.Heeds version sights state) (spec : ClusterSpec) (wake : Signal)
    (hwake : wake.isGiven = true) (version' : Nat) :
    Heeds ⟨w.identity, spec, wake⟩ version' sights state := by
  cases h with
  | unborn => exact .unborn
  | passing habreast hfits => exact .passing (.inl hwake) hfits
  | waiting habreast hwhole => exact .waiting (.inl hwake) hwhole
  | finished => exact .finished

end Wish

namespace Fleet

variable {f g : Fleet} {n : Nat} {first : Bool} {w : Wish} {version : Nat} {sights : List Sight}

/-- The loop of a controller has gone on: at most its signal has changed, and it heeds its spec. -/
def Heeding (f : Fleet) (n : Nat) (w : Wish) (version : Nat) (r : (Loop × Fleet) × List Sight) : Prop :=
  ∃ wake, r.1.2.wishes = f.wishes.set n (w.signalled wake) ∧
    (w.signalled wake).Heeds version r.2 r.1.1

/-- A loop that leaves all wishes as they are heeds its spec if its record does. -/
theorem Heeding.intro {r : (Loop × Fleet) × List Sight} (hw : f.wishes[n]? = some w)
    (hwishes : r.1.2.wishes = f.wishes) (hheeds : w.Heeds version r.2 r.1.1) :
    f.Heeding n w version r := by
  have hself : f.wishes.set n (w.signalled w.wake) = f.wishes := Board.set_same hw
  exact ⟨w.wake, hwishes.trans hself.symm, hheeds⟩

theorem Heeding.congr {r : (Loop × Fleet) × List Sight} (h : g.Heeding n w version r)
    (hwishes : g.wishes = f.wishes) : f.Heeding n w version r := by
  obtain ⟨wake, hafter, hheeds⟩ := h
  exact ⟨wake, by rw [hafter, hwishes], hheeds⟩

/-- What is done after another signal has been set. -/
theorem Heeding.signalled {r : (Loop × Fleet) × List Sight} {wake : Signal}
    (hwishes : g.wishes = f.wishes.set n (w.signalled wake))
    (h : g.Heeding n (w.signalled wake) version r) : f.Heeding n w version r := by
  obtain ⟨wake', hwishes', hheeds⟩ := h
  exact ⟨wake', by rw [hwishes', hwishes, List.set_set]; rfl, hheeds⟩

/-- Only the signal of one wish changes with the signal of its controller. -/
theorem changeSignal_wishes (hw : f.wishes[n]? = some w) (change : Signal → Signal) :
    (f.changeSignal n change).wishes = f.wishes.set n (w.signalled (change w.wake)) := by
  have hmodify : (f.changeSignal n change).wishes =
      f.wishes.modify n fun w => w.signalled (change w.wake) :=
    Board.map_modify _ _ fun _ => rfl
  rw [hmodify, List.modify_eq_set_getElem?, hw]
  rfl

theorem endLoop_wishes (f : Fleet) (n : Nat) (first : Bool) :
    (f.endLoop n first).2.wishes = f.wishes := by
  cases first with
  | false => rfl
  | true => exact traits_changeController f n fun _ => rfl

theorem wishes_set_self (hw : f.wishes[n]? = some w) (w' : Wish) : (f.wishes.set n w')[n]? = some w' :=
  List.getElem?_set_self (List.getElem?_eq_some_iff.mp hw).1

/-- A pass reads the present spec, so it does not matter what signals have been given before. -/
theorem recordPass_heeding {next : Fleet → List Sight → (Loop × Fleet) × List Sight}
    (hw : f.wishes[n]? = some w)
    (hnext : ∀ (g : Fleet) (sight : Sight) (older : List Sight), g.wishes = f.wishes →
      sight.Current (w.read version) → sight.rest.isSome = true →
        g.Heeding n w version (next g (sight :: older)))
    (tick : Option Nat) (sights : List Sight) :
    f.Heeding n w version (recordPass (w.read version) f n tick sights next) := by
  have hpass := pass_traits (p := Controller.wish) (fun _ _ => rfl) f n true
  have hcurrent := Sight.begun_current (w.read version)
  unfold recordPass
  split
  · rename_i s g heq
    rw [heq] at hpass
    have hfits : (Sight.begun (w.read version) (some s)).Fits w.identity s.stage :=
      pass_fits hw rfl (congrArg Prod.fst heq)
    exact .intro hw hpass (.passing (.inr (hcurrent _)) hfits)
  · rename_i g heq
    rw [heq] at hpass
    exact (hnext g _ sights hpass (hcurrent none) (Sight.reach_whole _ _)).congr hpass

/-- The turn of a loop that has waited heeds the spec. -/
theorem recordTurn_heeding (fuel : Nat) {sight : Sight} (hw : f.wishes[n]? = some w) (tick : Nat)
    (habreast : w.Abreast version sight) (hwhole : sight.rest.isSome = true) (older : List Sight) :
    f.Heeding n w version
      (recordTurn (w.read version) n first fuel f tick (sight :: older)) := by
  induction fuel generalizing f w tick sight older with
  | zero => exact .intro hw rfl (.waiting habreast hwhole)
  | succ fuel ih =>
    unfold recordTurn
    split
    · exact .intro hw rfl .finished
    · rename_i c hc
      obtain rfl : c.wish = w := Option.some.inj ((wishes_getElem? hc).symm.trans hw)
      -- Whatever the signal is changed to, a pass that follows is current, and so is the rest of the turn.
      have hagain {g : Fleet} {wake : Signal}
          (hwishes : g.wishes = f.wishes.set n (c.wish.signalled wake)) (tick tick' : Nat) :
          f.Heeding n c.wish version (recordPass ((c.wish.signalled wake).read version) g n (some tick)
            (sight :: older) fun g sights => recordTurn ((c.wish.signalled wake).read version) n first
              fuel g tick' sights) := by
        have hw' : g.wishes[n]? = some (c.wish.signalled wake) := by
          rw [hwishes, wishes_set_self hw]
        refine .signalled hwishes (recordPass_heeding hw' (fun g' sight' older' hg' hcurrent hsome =>
          ih (hg' ▸ hw') tick' (.inr hcurrent) hsome older') _ _)
      split_ifs with hends hdue hwake
      · refine ⟨c.wake.leave, ?_, .finished⟩
        rw [endLoop_wishes]
        exact changeSignal_wishes hw Signal.leave
      · exact hagain (changeSignal_wishes hw Signal.leave) _ _
      · have htaken : ((f.changeSignal n Signal.take).note ((Log.debug
            "Spec changed, reconciling").within c.span)).wishes =
              f.wishes.set n (c.wish.signalled c.wake.take) := changeSignal_wishes hw Signal.take
        exact hagain htaken _ _
      · exact ⟨c.wake.park, changeSignal_wishes hw Signal.park,
          .waiting (habreast.signalled c.wake.park_isGiven) hwhole⟩

theorem recordAfter_heeding {sight : Sight} (hw : f.wishes[n]? = some w) (tick : Option Nat)
    (habreast : w.Abreast version sight) (hwhole : sight.rest.isSome = true) (older : List Sight) :
    f.Heeding n w version
      (recordAfter (w.read version) n first tick f (sight :: older)) := by
  cases tick with
  | some tick => exact recordTurn_heeding _ hw tick habreast hwhole older
  | none =>
    unfold recordAfter
    dsimp only
    split_ifs
    · exact .intro hw (endLoop_wishes f n first) .finished
    · exact recordTurn_heeding _ hw _ habreast hwhole older

/-- A controller that heeds its spec goes on to do so, whatever its passes meet. -/
theorem recordLoop_heeding {state : Loop} (hw : f.wishes[n]? = some w)
    (hheeds : w.Heeds version sights state) (first : Bool) :
    f.Heeding n w version (recordLoop version f n first state sights) := by
  unfold recordLoop
  split
  · rename_i hnone
    rw [traits_getElem?, hnone] at hw
    cases hw
  · rename_i c hc
    obtain rfl : c.wish = w := Option.some.inj ((wishes_getElem? hc).symm.trans hw)
    cases hheeds with
    | unborn =>
      -- The first pass reads the present spec, whatever the controller was given before it.
      have hstart : (f.note ((Log.info "Starting cluster controller").within c.span)).wishes[n]? =
          some c.wish := hw
      exact (recordPass_heeding hstart (fun g sight older hg hcurrent hsome =>
        recordAfter_heeding (hg ▸ hstart) none (.inr hcurrent) hsome older) none []).congr rfl
    | @passing sight older s tick habreast hfits =>
      -- If the spec is another one by now then the signal has been given, and stays given.
      have hland := land_traits (p := Controller.wish) (fun _ _ => rfl) f n true s
      dsimp only
      split
      · rename_i s' g heq
        rw [heq] at hland
        have hfits' : (sight.reach (c.wish.read version) s'.stage.isOpening).Fits c.identity s'.stage :=
          land_fits hw rfl hfits (congrArg Prod.fst heq)
        exact .intro hw hland (.passing (habreast.reach _) hfits')
      · rename_i g heq
        rw [heq] at hland
        have hkept : g.wishes = f.wishes := hland
        exact (recordAfter_heeding (hkept ▸ hw) tick (habreast.reach false) (sight.reach_whole _)
          older).congr hkept
    | waiting habreast hwhole => exact recordTurn_heeding _ hw _ habreast hwhole _
    | finished => exact .intro hw rfl .finished

end Fleet
end NatsFleet
