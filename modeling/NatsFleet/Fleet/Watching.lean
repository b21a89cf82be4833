import NatsFleet.Fleet.Startup

/-!
The task of a watcher: it passes changes on to the dispatch loop, waits while the mailbox is full,
and ends when the scope of all controllers does or when nobody receives its changes.
-/
namespace NatsFleet.Fleet

/-- What the mailbox of a dispatch loop is like. -/
inductive MailboxState where
  | roomy
  | full
  | closed
  deriving DecidableEq

/-- What the mailbox of a task is like. -/
def mailboxState (f : Fleet) (i : Nat) : MailboxState :=
  match f.tasks[i]? with
  | some (.dispatch _ (.finished _)) => .closed
  | some (.dispatch mailbox _) =>
    if mailbox.waiting.length < mailbox.capacity then .roomy else .full
  | _ => .closed

/-- A change is put into the mailbox of a dispatch loop, if there is room. -/
def send (f : Fleet) (i : Nat) (change : Watch.Change) : Bool × Fleet :=
  match f.tasks[i]?, f.mailboxState i with
  | some (.dispatch mailbox state), .roomy =>
    if mailbox.isOpen then
      let mailbox := { mailbox with waiting := mailbox.waiting ++ [change] }
      (true, { f with tasks := f.tasks.set i (.dispatch mailbox state) })
    else (false, f)
  | _, _ => (false, f)

/-- No further change comes into the mailbox of a dispatch loop. -/
def closeMailbox (f : Fleet) (i : Nat) : Fleet :=
  match f.tasks[i]? with
  | some (.dispatch mailbox state) =>
    { f with tasks := f.tasks.set i (.dispatch { mailbox with isOpen := false } state) }
  | _ => f

/-- Where a watcher stands, and the fleet. -/
abbrev Watched := Watch.Watcher × Watching × Fleet

def endWatch (f : Fleet) (receiver : Nat) (w : Watch.Watcher) (entry : Log.Entry) : Watched :=
  (w, .finished, (f.note entry).closeMailbox receiver)

/-- The most steps that a watcher makes without waiting. -/
def watchFuel : Nat := 100000

mutual

/-- A change is passed on, once there is room for it. -/
def deliver (f : Fleet) (receiver fuel : Nat) (w : Watch.Watcher) (c : Watch.Change) : Watched :=
  match fuel with
  | 0 => (w, .delivering c, f)
  | fuel + 1 =>
    match f.mailboxState receiver with
    | .closed => f.endWatch receiver w Watch.Watcher.closedEntry
    | .full => (w, .delivering c, f)
    | .roomy => (f.send receiver c).2.followOn receiver fuel w

/-- A watcher goes on until it has to wait. -/
def followOn (f : Fleet) (receiver fuel : Nat) (w : Watch.Watcher) : Watched :=
  match fuel with
  | 0 => (w, .pausing f.now, f)
  | fuel + 1 =>
    match w.changes, w.trouble with
    | c :: changes, _ =>
      (f.note (Watch.Watcher.changeEntry c)).deliver receiver fuel { w with changes := changes } c
    | [], some t =>
      let (wakeUp, w) := w.rest f.now
      (w, .pausing wakeUp, f.note (Watch.Watcher.troubleEntry t))
    | [], none =>
      if f.cancelled then f.endWatch receiver w Watch.Watcher.endEntry
      else match w.course.request? w.place with
        | none => f.followOn receiver fuel (w.take w.course.proceed)
        | some (.error e) => f.followOn receiver fuel (w.receive (.error e))
        | some (.ok request) => (w, .asking, f.ask request)

end

def pollWatch (f : Fleet) (receiver : Nat) (w : Watch.Watcher) (state : Watching) : Watched :=
  match state with
  | .unborn => (f.note Watch.Watcher.startEntry).followOn receiver watchFuel w
  | .delivering c => f.deliver receiver watchFuel w c
  | .finished => (w, .finished, f)
  | .asking =>
    if f.cancelled then f.endWatch receiver w Watch.Watcher.endEntry
    else match f.reply? with
      | none => (w, .asking, f)
      | some reply =>
        { f with line := .idle }.followOn receiver watchFuel (w.receive (.ok reply))
  | .pausing _ => f.followOn receiver watchFuel w

def isWatchReady (f : Fleet) (receiver : Nat) : Watching → Bool
  | .unborn => true
  | .asking => f.cancelled || f.reply?.isSome
  | .pausing wakeUp => f.cancelled || wakeUp ≤ f.now
  | .delivering _ => f.mailboxState receiver ≠ .full
  | .finished => false

end NatsFleet.Fleet

namespace NatsFleet

/-- The moment at which a watcher goes on, as far as it is known. -/
def Watching.due? : Watching → Option Nat
  | .pausing wakeUp => some wakeUp
  | _ => none

end NatsFleet
