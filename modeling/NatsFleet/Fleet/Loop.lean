import NatsFleet.Controller.Progress
import NatsFleet.Fleet.Basic

/-!
The loop of a controller: a pass right away, and then one on every tick and every wake-up until it
is cancelled. A pass runs on while its requests are answered at once, and otherwise waits for the
reply.
-/
namespace NatsFleet

/-- The moment at which a pass that waits can go on. -/
def Standing.due? (s : Standing) : Option Nat := s.flight.map (·.due)

/-- The moment at which the loop has something to do, as far as it is known. -/
def Loop.due? : Loop → Option Nat
  | .passing s _ => s.due?
  | .waiting tick => some tick
  | _ => none

namespace Fleet

/-- A pass of a controller goes on after a reply. -/
def resume (f : Fleet) (n : Nat) (c : Controller) (stage : Pass.Stage) (reply : Reply) :
    Pass.Stage × Fleet :=
  let next := Pass.resume c.identity f.settings.nameAttempts stage reply
    (c.desk f.draws f.wallClock)
  (next.1, { f with
    draws := next.2.draws
    readings := f.readings + 1
    controllers := f.controllers.set n { c with memory := next.2.memory }
    log := f.log ++ next.2.log.map (Log.Entry.within c.span) })

/-- A pass that stands at a stage goes on until it is over or has to wait. The part that ensures the
services is over when the pods are to be listed. -/
def drive (f : Fleet) (n : Nat) (whole : Bool) (stage : Pass.Stage) : Option Standing × Fleet :=
  match f.controller? n with
  | none => (none, f)
  | some c =>
    match _h : stage.request? c.identity with
    | none =>
      match stage with
      | .finished => (none, f)
      | _ => (some ⟨stage, none⟩, f)
    | some request =>
      if !whole && request.method = .listPods then (none, f)
      else
        let place := c.key.namespaceName
        let taken := (f.platform place).take request.method
        if taken.1.delay = 0 then
          match taken.2.conclude f.now request taken.1.ending with
          | (none, p) => (some ⟨stage, none⟩, f.setPlatform place p)
          | (some reply, p) =>
            let next := (f.setPlatform place p).resume n c stage reply
            drive next.2 n whole next.1
        else
          (some ⟨stage, some ⟨request, taken.1.ending, f.now + taken.1.delay⟩⟩,
            f.setPlatform place taken.2)
termination_by stage.rank
decreasing_by exact Pass.resume_before _ _ _ _ _ _ _h

/-- A pass that waits goes on if its request has come back. -/
def land (f : Fleet) (n : Nat) (whole : Bool) (s : Standing) : Option Standing × Fleet :=
  match s.flight, f.controller? n with
  | none, _ => (some s, f)
  | some _, none => (none, f)
  | some flight, some c =>
    if f.now < flight.due then (some s, f)
    else
      let place := c.key.namespaceName
      match (f.platform place).conclude f.now flight.request flight.ending with
      | (none, p) => (some ⟨s.stage, none⟩, f.setPlatform place p)
      | (some reply, p) =>
        let next := (f.setPlatform place p).resume n c s.stage reply
        next.2.drive n whole next.1

def pass (f : Fleet) (n : Nat) (whole : Bool) : Option Standing × Fleet :=
  match f.controller? n with
  | none => (none, f)
  | some c => f.drive n whole (Pass.start c.identity c.spec)

/-- The tick after one that was due at `tick` and is handled now: a period later, or a period from
now if more than five milliseconds went by. -/
def nextTick (f : Fleet) (tick : Nat) : Nat :=
  if tick + 5 < f.now then f.now + f.settings.interval else tick + f.settings.interval

def endLoop (f : Fleet) (n : Nat) (first : Bool) : Loop × Fleet :=
  (.finished, if first then f.changeController n fun c => { c with done := true } else f)

/-- Changes the wake-up signal of a controller. -/
def changeSignal (f : Fleet) (n : Nat) (change : Signal → Signal) : Fleet :=
  f.changeController n fun c => { c with wake := change c.wake }

/-- The loop looks for something to do: being cancelled comes before a tick, and a tick before a
wake-up. At most `fuel` passes are made without waiting. -/
def turn : Nat → Fleet → Nat → Bool → Nat → Loop × Fleet
  | 0, f, _, _, tick => (.waiting tick, f)
  | fuel + 1, f, n, first, tick =>
    match f.controller? n with
    | none => (.finished, f)
    | some c =>
      if c.cancelled then
        ((f.changeSignal n Signal.leave).note
          ((Log.info "Cluster controller stopped").within c.span)).endLoop n first
      else if tick ≤ f.now then
        let tick := f.nextTick tick
        match (f.changeSignal n Signal.leave).pass n true with
        | (some s, f) => (.passing s (some tick), f)
        | (none, f) => turn fuel f n first tick
      else if c.wake.isGiven then
        match ((f.changeSignal n Signal.take).note
          ((Log.debug "Spec changed, reconciling").within c.span)).pass n true with
        | (some s, f) => (.passing s (some tick), f)
        | (none, f) => turn fuel f n first tick
      else (.waiting tick, f.changeSignal n Signal.park)

/-- No more than a tick and two wake-ups can be due at once. -/
def turnFuel : Nat := 4

/-- The loop goes on after a pass. Ticks start with the end of the first pass and need a period. -/
def afterPass (f : Fleet) (n : Nat) (first : Bool) (tick : Option Nat) : Loop × Fleet :=
  match tick with
  | some tick => turn turnFuel f n first tick
  | none =>
    if f.settings.interval = 0 then f.endLoop n first
    else turn turnFuel f n first (f.now + f.settings.interval)

/-- The loop runs until it has to wait. -/
def pollLoop (f : Fleet) (n : Nat) (first : Bool) (state : Loop) : Loop × Fleet :=
  match state with
  | .unborn =>
    let span := ((f.controller? n).map (·.span)).getD []
    match (f.note ((Log.info "Starting cluster controller").within span)).pass n true with
    | (some s, f) => (.passing s none, f)
    | (none, f) => f.afterPass n first none
  | .passing s tick =>
    match f.land n true s with
    | (some s, f) => (.passing s tick, f)
    | (none, f) => f.afterPass n first tick
  | .waiting tick => turn turnFuel f n first tick
  | .finished => (.finished, f)

def isLoopReady (f : Fleet) (n : Nat) (state : Loop) : Bool :=
  match state with
  | .unborn => true
  | .passing s _ => s.due?.any (· ≤ f.now)
  | .waiting tick => tick ≤ f.now || (f.controller? n).any fun c => c.cancelled || c.wake.isGiven
  | .finished => false

def spawnLoop (f : Fleet) (n : Nat) : Fleet :=
  let first := !((f.controller? n).any (·.started))
  (f.changeController n fun c => { c with started := true }).spawn (.loop n first .unborn)

end Fleet

end NatsFleet
