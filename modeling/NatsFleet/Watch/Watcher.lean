import NatsFleet.Api.Server
import NatsFleet.Log
import NatsFleet.Watch.Backoff
import NatsFleet.Watch.Course

/-!
A watcher of declared clusters: what it is told becomes changes, and it pauses after each trouble.
-/
namespace NatsFleet.Watch

/-- A watcher: where it is on its course, the changes that it has not passed on yet, and the trouble
that it has not told of yet. -/
structure Watcher where
  -- The namespace to watch, or all of them.
  place : Option String := none
  course : Course := .unlisted
  classifier : Classifier := {}
  backoff : Backoff := {}
  changes : List Change := []
  trouble : Option Trouble := none

namespace Watcher

/-- Takes in what came of a step. -/
def take (w : Watcher) (b : Batch) : Watcher :=
  let (changes, classifier) := b.reports.foldl (fun acc r =>
    let (new, c) := acc.2.classify r
    (acc.1 ++ new, c)) (w.changes, w.classifier)
  { w with changes := changes, classifier := classifier, trouble := b.trouble, course := b.course }

/-- Takes in the reply to its request. -/
def receive (w : Watcher) (reply : Except RequestError Http.Reply) : Watcher :=
  w.take (w.course.receive reply)

/-- The log entry of a change that is passed on. -/
def changeEntry (c : Change) : Log.Entry :=
  Log.debug "Dispatching cluster event"
    [("namespace", c.key.namespaceName), ("cluster", c.key.name)]

def troubleEntry (t : Trouble) : Log.Entry :=
  Log.warn "NatsCluster watch error" [("error", t.message)]

def startEntry : Log.Entry := Log.info "Watching NatsCluster resources"

def endEntry : Log.Entry := Log.info "Stopped watching NatsCluster resources"

/-- The log entry of an end for want of a receiver. -/
def closedEntry : Log.Entry := Log.debug "Event channel closed, stopping watcher"

/-- A pause: the moment at which it ends. -/
def rest (w : Watcher) (now : Nat) : Nat × Watcher :=
  let (pause, backoff) := w.backoff.next now
  (now + pause, { w with trouble := none, backoff := backoff })

end Watcher

/-- What a watcher did: the changes that it passed on, its log, and whether it ended by itself. -/
structure Observation where
  changes : List Change := []
  log : List Log.Entry := []
  ended : Bool := false

namespace Observation

def note (o : Observation) (e : Log.Entry) : Observation := { o with log := o.log ++ [e] }

end Observation

namespace Watcher

/-- The watcher goes on until `limit`, where it is stopped, or until it finds that nobody receives
its changes. At most `fuel` steps are made. -/
def follow (isReceived : Bool) (limit : Nat) :
    Nat → Nat → Server → Watcher → Observation → Observation
  | 0, _, _, _, o => o
  | fuel + 1, now, server, w, o =>
    match w.changes, w.trouble with
    | c :: changes, _ =>
      let o := o.note (changeEntry c)
      if isReceived then
        follow isReceived limit fuel now server { w with changes := changes }
          { o with changes := o.changes ++ [c] }
      else { o.note closedEntry with ended := true }
    | [], some t =>
      let (moment, w) := w.rest now
      let o := o.note (troubleEntry t)
      if limit ≤ moment then o.note endEntry else follow isReceived limit fuel moment server w o
    | [], none =>
      match w.course.request? w.place with
      | none => follow isReceived limit fuel now server (w.take w.course.proceed) o
      | some (.error e) => follow isReceived limit fuel now server (w.receive (.error e)) o
      | some (.ok request) =>
        match server.reply request with
        | (none, _) => o.note endEntry
        | (some reply, server) =>
          follow isReceived limit fuel now server (w.receive (.ok reply)) o

/-- The most steps of a watcher that is followed. -/
def followFuel : Nat := 1000000

/-- Follows a watcher of all namespaces from its start on. -/
def observe (isReceived : Bool) (limit : Nat) (server : Server) : Observation :=
  if limit = 0 then { log := [startEntry, endEntry], ended := true }
  else follow isReceived limit followFuel 0 server {} { log := [startEntry] }

end Watcher

end NatsFleet.Watch
