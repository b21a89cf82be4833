import NatsFleet.Fleet.Watching

/-!
Tasks run one at a time, each until it has to wait. A task that can go on is ready.
-/
namespace NatsFleet

/-- The task has come to its own end. -/
def Task.isEnded : Task → Bool
  | .loop _ _ .finished | .errand _ _ .finished => true
  | .stops _ _ states => states.all Stopping.isOver
  | .cleanUp _ state => state.isOver
  | .shutdown state => state.isFinished
  | .dispatch _ (.finished _) => true
  | .startup _ (.failed _) | .watch _ _ .finished => true
  | _ => false

/-- The moment at which the task can go on, as far as it is known. -/
def Task.due? : Task → Option Nat
  | .loop _ _ state => state.due?
  | .errand _ _ (.standing s) => s.due?
  | .errand _ _ _ => none
  | .stops _ _ states => (states.filterMap Stopping.due?).min?
  | .cleanUp _ state => state.due?
  | .shutdown state => state.due?
  | .dispatch _ (.closing state) => state.due?
  | .dispatch _ _ => none
  | .startup _ state => state.due?
  | .watch _ _ state => state.due?
  | .transport => none
  | .pause moment => some moment
  | .await _ => none

namespace Fleet

/-- There is nothing left to do for a task. -/
def isFinished (f : Fleet) : Task → Bool
  | .pause moment => moment ≤ f.now
  | .await i => (f.tasks[i]?).any Task.isEnded
  | t => t.isEnded

def isReady (f : Fleet) : Task → Bool
  | .loop n _ state => f.isLoopReady n state
  | .errand _ _ .unborn => true
  | .errand _ _ (.standing s) => s.due?.any (· ≤ f.now)
  | .errand _ _ .finished => false
  | .stops n _ states => states.any (f.isStopReady n)
  | .cleanUp n state => f.isStopReady n state
  | .shutdown state => f.isClosingReady state
  | .dispatch mailbox state => f.isDispatchReady mailbox state
  | .startup _ state => f.isStartupReady state
  | .watch receiver _ state => f.isWatchReady receiver state
  | .transport => f.isTransportReady
  | .pause moment => moment ≤ f.now
  | .await i => (f.tasks[i]?).any Task.isEnded

/-- The state of a pass made by hand. -/
def errandOf : Option Standing × Fleet → Errand × Fleet
  | (none, f) => (.finished, f)
  | (some s, f) => (.standing s, f)

/-- A task runs until it has to wait. -/
def run (f : Fleet) : Task → Task × Fleet
  | .loop n first state =>
    let (state, f) := f.pollLoop n first state
    (.loop n first state, f)
  | .errand n whole .unborn =>
    let (state, f) := errandOf (f.pass n whole)
    (.errand n whole state, f)
  | .errand n whole (.standing s) =>
    let (state, f) := errandOf (f.land n whole s)
    (.errand n whole state, f)
  | .errand n whole .finished => (.errand n whole .finished, f)
  | .stops n grace states =>
    let (states, f) := f.pollStops grace (states.map fun s => (n, s))
    (.stops n grace (states.map (·.2)), f)
  | .cleanUp n state =>
    let (state, f) := f.pollCleanUp n state
    (.cleanUp n state, f)
  | .shutdown state =>
    let (state, f) := f.pollClosing state
    (.shutdown state, f)
  | .dispatch mailbox state =>
    let (mailbox, state, f) := f.pollDispatch mailbox state
    (.dispatch mailbox state, f)
  | .startup self state => f.pollStartup self state
  | .watch receiver w state =>
    let (w, state, f) := f.pollWatch receiver w state
    (.watch receiver w state, f)
  | .transport => (.transport, f.carry)
  | .pause moment => (.pause moment, f)
  | .await i => (.await i, f)

/-- The task of a number runs until it has to wait. -/
def step (f : Fleet) (i : Nat) : Fleet :=
  match f.tasks[i]? with
  | none => f
  | some t =>
    let (t, f) := f.run t
    { f with tasks := f.tasks.set i t }

/-- The numbers of the tasks that can go on. -/
def readyTasks (f : Fleet) : List Nat :=
  (List.range f.tasks.length).filter fun i => (f.tasks[i]?).any f.isReady

/-- The next moment at which a task can go on. -/
def nextDue? (f : Fleet) : Option Nat := (f.tasks.filterMap Task.due?).filter (f.now < ·) |>.min?

end Fleet

end NatsFleet
