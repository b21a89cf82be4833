import NatsFleet.Controller.Pass

/-!
A namespace of the platform, kept in memory: the services and pods there are, and the requests that
were made. How each request comes out can be laid down beforehand: it works, it fails, it takes its
time, or it never comes back.
-/
namespace NatsFleet

inductive Method where
  | createService
  | applyConfigMap
  | createPod
  | listPods
  | deletePod
  | patchStatus
  deriving DecidableEq

def Request.method : Request → Method
  | .createService _ => .createService
  | .applyConfigMap _ => .applyConfigMap
  | .createPod _ => .createPod
  | .listPods _ => .listPods
  | .deletePod _ => .deletePod
  | .patchStatus _ _ => .patchStatus

inductive Outcome where
  | works
  | fails (failure : Failure)
  | delayed (ms : Nat) (next : Outcome)
  | stalls

/-- What becomes of a request when its time has come. -/
inductive Ending where
  | works
  | fails (failure : Failure)
  | stalls

namespace Outcome

def delay : Outcome → Nat
  | .delayed ms next => ms + next.delay
  | _ => 0

/-- What becomes of a request after its delays. -/
def ending : Outcome → Ending
  | .works => .works
  | .fails f => .fails f
  | .delayed _ next => next.ending
  | .stalls => .stalls

end Outcome

/-- A request that came back, or that never will. -/
structure Call where
  moment : Nat
  request : Request
  -- The reply; none to a request that never comes back.
  reply : Option Reply

structure Platform where
  services : List String := []
  pods : List Pod := []
  -- The creation time of the next pod, in seconds.
  clock : Int := 1700000000
  clockStep : Int := 1
  -- Deleted pods stay until they are reaped.
  graceful : Bool := false
  -- The status of new pods.
  initialStatus : Option PodStatus := none
  -- The outcomes laid down for the next requests of a kind.
  queued : List (Method × List Outcome) := []
  -- The outcomes of all further requests of a kind.
  always : List (Method × Outcome) := []
  calls : List Call := []

namespace Platform

/-- The outcomes laid down for the next requests of a kind. -/
def queue (p : Platform) (m : Method) : List Outcome := (p.queued.lookup m).getD []

/-- Replaces the outcomes laid down for the next requests of a kind. -/
def setQueue (p : Platform) (m : Method) (outcomes : List Outcome) : Platform :=
  { p with queued := (m, outcomes) :: p.queued.filter fun q => q.1 ≠ m }

/-- Lays down outcomes for requests of a kind, after those laid down before. -/
def append (p : Platform) (m : Method) (outcomes : List Outcome) : Platform :=
  p.setQueue m (p.queue m ++ outcomes)

/-- Lays down the outcome of all further requests of a kind. -/
def setAlways (p : Platform) (m : Method) (outcome : Outcome) : Platform :=
  { p with always := (m, outcome) :: p.always.filter fun q => q.1 ≠ m }

/-- The outcome of the next request of a kind. -/
def take (p : Platform) (m : Method) : Outcome × Platform :=
  match p.queue m with
  | outcome :: rest => (outcome, p.setQueue m rest)
  | [] => ((p.always.lookup m).getD .works, p)

/-- The text before the first `=` and the text after it. -/
def splitTerm : List Char → Option (List Char × List Char)
  | [] => none
  | c :: rest =>
    if c = '=' then some ([], rest) else (splitTerm rest).map fun s => (c :: s.1, s.2)

/-- The terms of a selector, between its commas. -/
def terms : List Char → List (List Char)
  | [] => [[]]
  | c :: rest =>
    match terms rest with
    | [] => [[]]
    | term :: more => if c = ',' then [] :: term :: more else (c :: term) :: more

/-- The labels of a pod satisfy every term of a selector. -/
def selects (selector : String) (pod : Pod) : Bool :=
  (terms selector.toList).all fun term =>
    match splitTerm term with
    | none => false
    | some (key, value) => pod.metadata.label? (String.ofList key) == some (String.ofList value)

/-- Adds a pod that has just been created. -/
def addNew (p : Platform) (pod : Pod) : Platform :=
  let metadata := { pod.metadata with creationTimestamp := some ⟨p.clock, 0⟩ }
  { p with
    pods := p.pods ++ [{ pod with metadata := metadata, status := p.initialStatus }]
    clock := p.clock + p.clockStep }

/-- The pod as it is once its deletion has begun. -/
def marked (pod : Pod) : Pod :=
  { pod with metadata := { pod.metadata with deletionTimestamp := some ⟨0, 0⟩ } }

/-- Deletes the pods of a name; it is no error that there is none. -/
def delete (p : Platform) (name : String) : Platform :=
  if p.graceful then
    { p with pods := p.pods.map fun pod => if pod.name = name then marked pod else pod }
  else { p with pods := p.pods.filter fun pod => pod.name ≠ name }

/-- The effect of a request that works, and the reply to it. -/
def serve (p : Platform) : Request → Reply × Platform
  | .createService s =>
    let name := s.metadata.anyName
    if name ∈ p.services then (.error (.alreadyExists name), p)
    else (.ok [], { p with services := p.services ++ [name] })
  | .applyConfigMap _ => (.ok [], p)
  | .createPod pod =>
    if p.pods.any fun q => q.name = pod.name then (.error (.alreadyExists pod.name), p)
    else (.ok [], p.addNew pod)
  | .listPods selector => (.ok (p.pods.filter (selects selector)), p)
  | .deletePod name => (.ok [], p.delete name)
  | .patchStatus _ _ => (.ok [], p)

def note (p : Platform) (moment : Nat) (request : Request) (reply : Option Reply) : Platform :=
  { p with calls := p.calls ++ [⟨moment, request, reply⟩] }

/-- What becomes of a request at the moment at which it takes effect. -/
def conclude (p : Platform) (moment : Nat) (request : Request) : Ending → Option Reply × Platform
  | .works =>
    let (reply, p) := p.serve request
    (some reply, p.note moment request (some reply))
  | .fails f => (some (.error f), p.note moment request (some (.error f)))
  | .stalls => (none, p.note moment request none)

/-! ## Changes from outside -/

def addPod (p : Platform) (pod : Pod) : Platform := { p with pods := p.pods ++ [pod] }

/-- Which pod is meant: the first one of a name, or the one at a place. -/
inductive Selection where
  | named (name : String)
  | place (index : Nat)

/-- The place of the pod that is meant. -/
def place? (p : Platform) : Selection → Option Nat
  | .named name => p.pods.findIdx? fun pod => pod.name = name
  | .place index => if index < p.pods.length then some index else none

/-- Changes a pod, if it is there. -/
def changePod (p : Platform) (s : Selection) (change : Pod → Pod) : Platform :=
  match p.place? s with
  | some index => { p with pods := p.pods.modify index change }
  | none => p

def changeAll (p : Platform) (change : Pod → Pod) : Platform :=
  { p with pods := p.pods.map change }

/-- Removes a pod, if it is there. -/
def removePod (p : Platform) (s : Selection) : Platform :=
  match p.place? s with
  | some index => { p with pods := p.pods.eraseIdx index }
  | none => p

/-- Removes the pods that are on their way out. -/
def reap (p : Platform) : Platform := { p with pods := p.pods.filter fun pod => !pod.isDeleting }

def removeService (p : Platform) (name : String) : Platform :=
  { p with services := p.services.filter fun s => s ≠ name }

/-- The names of the pods as a listing of the namespace shows them. -/
def podNames (p : Platform) : List String :=
  p.pods.map fun pod => if pod.isDeleting then pod.name ++ " (deleting)" else pod.name

end Platform

end NatsFleet
