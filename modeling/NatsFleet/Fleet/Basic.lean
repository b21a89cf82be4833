import NatsFleet.Api.Server
import NatsFleet.Controller.Basic
import NatsFleet.Platform
import NatsFleet.Registrar
import NatsFleet.Registry
import NatsFleet.Watch.Watcher

/-!
The state of an operator: its registry, its controllers, the tasks that run beside each other, and
the namespaces that they work on. Time is a number of milliseconds.
-/
namespace NatsFleet

/-- The settings of an operator, with times in milliseconds. -/
structure Settings where
  -- The namespace to watch, or all of them.
  watched : Option String := none
  -- The period of each controller's passes.
  interval : Nat := Layout.reconcileInterval
  -- How long a stop waits for a controller.
  grace : Nat := Layout.stopGrace
  pollInterval : Nat := Layout.pollInterval
  readyTimeout : Nat := Layout.readyTimeout
  -- How many names may be drawn in the search for fresh ones.
  nameAttempts : Nat := 1000000

/-- A request on its way: what becomes of it, and when. -/
structure Flight where
  request : Request
  ending : Ending
  due : Nat

/-- A pass at a request, and the request if it will come back. -/
structure Standing where
  stage : Pass.Stage
  flight : Option Flight

/-- Where the loop of a controller stands. -/
inductive Loop where
  | unborn
  -- A pass is under way; the tick after it is due then, unless it is the first pass.
  | passing (standing : Standing) (tick : Option Nat)
  -- The next tick is due then.
  | waiting (tick : Nat)
  | finished

/-- What became of asking a controller to stop. -/
inductive StopOutcome where
  -- The loop returned in time.
  | stopped
  -- The grace period went by first.
  | timedOut
  -- Another caller waits for the loop already.
  | alreadyStopping
  deriving DecidableEq

/-- Where the stop of a controller stands. -/
inductive Stopping where
  | unborn
  | waiting (deadline : Nat)
  | over (outcome : StopOutcome)

/-- Where a shutdown stands: it stops every registered controller, and then waits until no stop is
incomplete. -/
inductive Closing where
  | unborn
  | joining (stops : List (Nat × Stopping))
  | draining (controllers : List Nat)
  | finished (moment : Nat)

/-- The changes that wait for the dispatch loop. -/
structure Mailbox where
  waiting : List Watch.Change := []
  capacity : Nat := Layout.eventCapacity
  -- More changes can come.
  isOpen : Bool := true

inductive Dispatching where
  | unborn
  | receiving
  | closing (state : Closing)
  | finished (moment : Nat)

/-- Where the start of an operator stands: it reaches the server, registers the definition, and goes
on as the dispatch loop. -/
inductive Startup where
  | unborn
  | connecting
  | creating
  | reading (deadline : Nat)
  | pausing (deadline wakeUp : Nat)
  | failed (failure : Failure)

/-- Where the task of a watcher stands. -/
inductive Watching where
  | unborn
  | asking
  | pausing (wakeUp : Nat)
  -- A change waits for room in the mailbox.
  | delivering (change : Watch.Change)
  | finished

/-- The line to the API server, which carries one request at a time. -/
inductive Line where
  | idle
  | asked (request : Http.Request)
  | answered (reply : Http.Reply)
  -- The request gets no reply.
  | silent

/-- Where a pass that is made by hand stands. -/
inductive Errand where
  | unborn
  | standing (standing : Standing)
  | finished

/-- Something that runs beside the other tasks, and waits in between. -/
inductive Task where
  -- The loop of a controller; the first one of a controller tells when it returns.
  | loop (controller : Nat) (first : Bool) (state : Loop)
  -- A pass made by hand, or the part of it that ensures the services.
  | errand (controller : Nat) (whole : Bool) (state : Errand)
  -- Stops of a controller that are waited for together.
  | stops (controller grace : Nat) (states : List Stopping)
  -- The stop of a deleted cluster's controller, after which it is unregistered.
  | cleanUp (controller : Nat) (state : Stopping)
  | shutdown (state : Closing)
  | dispatch (mailbox : Mailbox) (state : Dispatching)
  -- The start of the operator, by its own number.
  | startup (self : Nat) (state : Startup)
  -- A watcher, which fills the mailbox of a dispatch loop.
  | watch (receiver : Nat) (watcher : Watch.Watcher) (state : Watching)
  -- The carrier of requests to the API server.
  | transport
  -- Waiting for a moment.
  | pause (moment : Nat)
  -- Waiting for another task to end.
  | await (task : Nat)

/-- Where an operator is in its life. -/
inductive FleetPhase where
  | starting
  | running
  | shuttingDown
  | stopped
  deriving DecidableEq

def FleetPhase.name : FleetPhase → String
  | .starting => "Starting"
  | .running => "Running"
  | .shuttingDown => "ShuttingDown"
  | .stopped => "Stopped"

def FleetPhase.isClosed : FleetPhase → Bool
  | .shuttingDown | .stopped => true
  | _ => false

structure Fleet where
  settings : Settings := {}
  now : Nat := 0
  phase : FleetPhase := .starting
  -- The scope of all controllers has been cancelled.
  cancelled : Bool := false
  registry : Registry := {}
  -- Every controller ever accepted, by number.
  controllers : List Controller := []
  -- Every task ever started, by number.
  tasks : List Task := []
  -- The namespaces that have been used.
  platforms : List (String × Platform) := []
  -- What a namespace is like before it is used.
  layout : String → Platform := fun _ => {}
  -- The API server, as the start and the watcher meet it.
  server : Server := {}
  line : Line := .idle
  draws : Draws
  -- The number of times that the wall clock has been read.
  readings : Nat := 0
  log : List Log.Entry := []

namespace Fleet

/-- The wall clock's reading: it goes on by a nanosecond each time it is read. -/
def wallClock (f : Fleet) : Timestamp where
  seconds := 1700000000 + f.now / 1000
  nanos := f.now % 1000 * 1000000 + f.readings % 1000000

def note (f : Fleet) (e : Log.Entry) : Fleet := { f with log := f.log ++ [e] }

def controller? (f : Fleet) (n : Nat) : Option Controller := f.controllers[n]?

def setController (f : Fleet) (n : Nat) (c : Controller) : Fleet :=
  { f with controllers := f.controllers.set n c }

def changeController (f : Fleet) (n : Nat) (change : Controller → Controller) : Fleet :=
  { f with controllers := f.controllers.modify n change }

/-- A controller is to start no further pass. -/
def isCancelled (f : Fleet) (n : Nat) : Bool := (f.controller? n).all (·.cancelled)

def platform (f : Fleet) (name : String) : Platform :=
  (f.platforms.lookup name).getD (f.layout name)

/-- Replaces a value under a name, or adds it. -/
def putNamed {α : Type} (name : String) (a : α) : List (String × α) → List (String × α)
  | [] => [(name, a)]
  | (n, b) :: rest => if n = name then (name, a) :: rest else (n, b) :: putNamed name a rest

def setPlatform (f : Fleet) (name : String) (p : Platform) : Fleet :=
  { f with platforms := putNamed name p f.platforms }

def spawn (f : Fleet) (t : Task) : Fleet := { f with tasks := f.tasks ++ [t] }

def cancel (f : Fleet) : Fleet :=
  { f with
    cancelled := true
    controllers := f.controllers.map fun c => { c with cancelled := true } }

end Fleet

end NatsFleet
