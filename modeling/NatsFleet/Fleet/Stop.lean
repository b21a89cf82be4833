import NatsFleet.Fleet.Loop

/-!
Stopping controllers: a controller is cancelled, and the first caller waits for its loop to return,
up to a grace period. Shutting down stops every registered controller and waits for all stops.
-/
namespace NatsFleet

def Stopping.isOver : Stopping → Bool
  | .over _ => true
  | _ => false

/-- The moment at which the stop gives up. -/
def Stopping.due? : Stopping → Option Nat
  | .waiting deadline => some deadline
  | _ => none

namespace Fleet

def stop (f : Fleet) (n : Nat) : Fleet :=
  match f.controller? n with
  | none => f
  | some c =>
    (f.note (Log.debug "Stopping controller" (Controller.fields c.key))).setController n
      { c with cancelled := true }

/-- A stop that waits looks whether the loop has returned, and then whether time is up. -/
def checkStop (f : Fleet) (n deadline : Nat) : Stopping × Fleet :=
  match f.controller? n with
  | none => (.over .stopped, f)
  | some c =>
    let release (f : Fleet) := f.changeController n fun c => { c with supervised := false }
    if c.done then (.over .stopped, release f)
    else if deadline ≤ f.now then
      (.over .timedOut,
        release (f.note (Log.error "Controller took too long to stop" (Controller.fields c.key))))
    else (.waiting deadline, f)

/-- A stop goes on. Only the first caller waits for the loop. -/
def pollStop (f : Fleet) (n grace : Nat) (state : Stopping) : Stopping × Fleet :=
  match state with
  | .unborn =>
    let f := f.stop n
    if (f.controller? n).any (·.awaited) then (.over .alreadyStopping, f)
    else
      (f.changeController n fun c => { c with awaited := true }).checkStop n (f.now + grace)
  | .waiting deadline => f.checkStop n deadline
  | .over outcome => (.over outcome, f)

def isStopReady (f : Fleet) (n : Nat) (state : Stopping) : Bool :=
  match state with
  | .unborn => true
  | .waiting deadline => deadline ≤ f.now || (f.controller? n).any (·.done)
  | .over _ => false

def pollStops (f : Fleet) (grace : Nat) : List (Nat × Stopping) → List (Nat × Stopping) × Fleet
  | [] => ([], f)
  | (n, state) :: rest =>
    let (state, f) := f.pollStop n grace state
    let (rest, f) := pollStops f grace rest
    ((n, state) :: rest, f)

end Fleet

/-- The controllers that a shutdown deals with. -/
def Closing.controllers : Closing → List Nat
  | .joining stops => stops.map (·.1)
  | .draining controllers => controllers
  | _ => []

/-- The controllers that a task deals with. -/
def Task.controllers : Task → List Nat
  | .loop _ _ .finished | .errand _ _ .finished => []
  | .loop n _ _ | .errand n _ _ => [n]
  | .stops n _ states => if states.all Stopping.isOver then [] else [n]
  | .cleanUp n state => if state.isOver then [] else [n]
  | .shutdown state => state.controllers
  | .dispatch _ (.closing state) => state.controllers
  | _ => []

namespace Fleet

/-- A registered controller, or one that a task deals with. -/
def isReferenced (f : Fleet) (n : Nat) : Bool :=
  f.registry.snapshot.contains n || f.tasks.any fun t => t.controllers.contains n

def isDrained (f : Fleet) : Bool :=
  (List.range f.controllers.length).all fun n =>
    !((f.controller? n).any (·.supervised) && f.isReferenced n)

/-- The last step of a shutdown: once no stop is incomplete, the scope of all controllers ends. -/
def drain (f : Fleet) (controllers : List Nat) : Closing × Fleet :=
  if f.isDrained then
    (.finished f.now, { f.cancel with phase := .stopped }.note (Log.info "Operator stopped"))
  else (.draining controllers, f)

def join (f : Fleet) (stops : List (Nat × Stopping)) : Closing × Fleet :=
  let (stops, f) := f.pollStops f.settings.grace stops
  if stops.all fun s => s.2.isOver then
    let timedOut := (stops.filter fun s =>
      match s.2 with
      | .over .timedOut => true
      | _ => false).length
    let f := if timedOut = 0 then f else
      f.note (Log.error "Some controllers did not stop within the grace period"
        [("timed_out", toString timedOut)])
    f.drain (stops.map (·.1))
  else (.joining stops, f)

/-- A shutdown goes on. Only the first one does anything. -/
def pollClosing (f : Fleet) (state : Closing) : Closing × Fleet :=
  match state with
  | .unborn =>
    if f.phase.isClosed then (.finished f.now, f)
    else
      let controllers := f.registry.snapshot
      let f := { f with phase := .shuttingDown }.note
        (Log.info "Shutting down operator" [("controllers", toString controllers.length)])
      f.join (controllers.map fun n => (n, .unborn))
  | .joining stops => f.join stops
  | .draining controllers => f.drain controllers
  | .finished moment => (.finished moment, f)

def isClosingReady (f : Fleet) (state : Closing) : Bool :=
  match state with
  | .unborn => true
  | .joining stops => stops.any fun s => f.isStopReady s.1 s.2
  | .draining _ => f.isDrained
  | .finished _ => false

end Fleet

def Closing.isFinished : Closing → Bool
  | .finished _ => true
  | _ => false

/-- The moment at which a shutdown has something to do, as far as it is known. -/
def Closing.due? : Closing → Option Nat
  | .joining stops => (stops.filterMap fun s => s.2.due?).min?
  | _ => none

end NatsFleet
