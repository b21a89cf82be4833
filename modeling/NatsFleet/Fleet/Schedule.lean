import NatsFleet.Fleet.Task

/-!
The order in which tasks run. Tasks that can go on queue up in the order in which they became ready,
and time moves only when none can. What is waited for runs outside the queue: before it when time
has moved, and after it when another task let it go on.
-/
namespace NatsFleet

/-- A fleet and its queue of ready tasks. -/
structure Schedule where
  fleet : Fleet
  queue : List Nat := []

namespace Schedule

/-- Queues the tasks that have become ready. -/
def refresh (s : Schedule) : Schedule :=
  { s with queue := s.queue ++ s.fleet.readyTasks.filter fun i => !s.queue.contains i }

def change (s : Schedule) (act : Fleet → Fleet) : Schedule :=
  { s with fleet := act s.fleet }.refresh

/-- Runs the queued tasks and those that they make ready, at most `fuel` of them. -/
def drain : Nat → Schedule → Schedule
  | 0, s => s
  | fuel + 1, s =>
    match s.queue with
    | [] => s
    | i :: rest => drain fuel (change { s with queue := rest } (·.step i))

/-- The most tasks that run without time moving. -/
def drainFuel : Nat := 100000

def moveTo (s : Schedule) (moment : Nat) : Schedule :=
  s.change fun f => { f with now := moment }

/-- Waits for a task outside the queue until it has ended or `limit` is reached, moving time at most
`fuel` times. -/
def await : Nat → Schedule → Task → Nat → Task × Schedule
  | 0, s, t, _ => (t, s)
  | fuel + 1, s, t, limit =>
    let (t, s) : Task × Schedule :=
      if s.fleet.isReady t then
        let (t, f) := s.fleet.run t
        (t, s.change fun _ => f)
      else (t, s)
    if s.fleet.isFinished t then (t, s)
    else
      let s := drain drainFuel s
      if s.fleet.isReady t then await fuel s t limit
      else if limit ≤ s.fleet.now then (t, s)
      else
        let next := ([limit] ++ s.fleet.nextDue?.toList ++
          (t.due?.toList.filter (s.fleet.now < ·))).min?.getD limit
        await fuel (s.moveTo next) t limit

/-- The most moves of time in one wait. -/
def awaitFuel : Nat := 1000000

/-- Waits for a task that is not given up before `limit` milliseconds have gone by. -/
def awaitWithin (s : Schedule) (limit : Nat) (t : Task) : Task × Schedule :=
  await awaitFuel s t (s.fleet.now + limit)

def advance (s : Schedule) (ms : Nat) : Schedule :=
  (await awaitFuel s (.pause (s.fleet.now + ms)) (s.fleet.now + ms)).2

end Schedule

end NatsFleet
