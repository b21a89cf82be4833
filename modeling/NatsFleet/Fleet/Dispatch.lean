import NatsFleet.Fleet.Stop

/-!
How an operator deals with changes of declared clusters: it adds, updates and deletes controllers,
and drops everything once it shuts down.
-/
namespace NatsFleet.Fleet

/-- Registers a controller for a cluster and starts its loop, unless the key is held or the operator
shuts down. -/
def add (f : Fleet) (c : Cluster) : Bool × Fleet :=
  let place := c.namespaceName
  let f := f.setPlatform place (f.platform place)
  let n := f.controllers.length
  if f.phase.isClosed then (false, f)
  else match f.registry.insert f.isCancelled c.key n with
    | .error e =>
      (false, f.note (Log.info "Ignoring duplicate cluster"
        (Controller.fields c.key ++ [("error", e.message)])))
    | .ok registry =>
      let controller := { Controller.ofCluster c with
        cancelled := f.cancelled, supervised := true, span := Controller.fields c.key }
      let f := { f with registry := registry, controllers := f.controllers ++ [controller] }
      let f := f.note (Log.info "Cluster added" (Controller.fields c.key ++
        [("size", toString c.spec.size.toNat), ("version", c.spec.version)]))
      (true, f.spawnLoop n)

/-- A pair of sizes as log entries show it. -/
def sizesText : Option (UInt32 × UInt32) → String
  | none => "None"
  | some (a, b) => "Some((" ++ toString a.toNat ++ ", " ++ toString b.toNat ++ "))"

/-- A pair of versions as log entries show it. -/
def versionsText : Option (String × String) → String
  | none => "None"
  | some (a, b) => "Some((" ++ Text.quoted a ++ ", " ++ Text.quoted b ++ "))"

/-- A truth value as log entries show it. -/
def flagText (b : Bool) : String := if b then "true" else "false"

/-- The log entry about the new spec of a cluster. -/
def updateEntry (k : ClusterKey) (d : SpecDiff) : Log.Entry :=
  if d.isEmpty then Log.debug "Spec unchanged" (Controller.fields k)
  else Log.info "Cluster updated" (Controller.fields k ++
    [("size", sizesText d.size), ("version", versionsText d.version), ("image", flagText d.image),
      ("tls", flagText d.tls), ("server_config", flagText d.logging)])

/-- The controller registered under a key that is not stopping. -/
def active? (f : Fleet) (k : ClusterKey) : Option Nat :=
  match f.registry.find? k with
  | none => none
  | some n => if f.isCancelled n then none else some n

/-- Gives a controller its new spec; a cluster without one is added. -/
def update (f : Fleet) (c : Cluster) : Fleet :=
  match f.active? c.key with
  | none =>
    ((f.note (Log.debug "Update for unknown or stopping cluster"
      (Controller.fields c.key))).add c).2
  | some n =>
    match f.controller? n with
    | none => f
    | some controller =>
      let (diff, controller) := controller.update c.spec
      (f.setController n controller).note (updateEntry c.key diff)

/-- Stops the controller of a cluster, and starts the task that unregisters it afterwards. -/
def delete (f : Fleet) (c : Cluster) : Fleet :=
  match f.registry.find? c.key with
  | none => f.note (Log.debug "Delete for unknown cluster" (Controller.fields c.key))
  | some n =>
    let f := f.note (Log.info "Cluster deleted, stopping controller" (Controller.fields c.key))
    (f.stop n).spawn (.cleanUp n .unborn)

/-- Deals with a change of a declared cluster. -/
def handle (f : Fleet) (change : Watch.Change) : Fleet :=
  if f.phase.isClosed then
    f.note (Log.debug "Dropping event during shutdown" (Controller.fields change.key))
  else match change with
    | .added c => (f.add c).2
    | .updated _ c => f.update c
    | .deleted c => f.delete c

/-- The stop of a deleted cluster's controller goes on; after it the controller is unregistered. -/
def pollCleanUp (f : Fleet) (n : Nat) (state : Stopping) : Stopping × Fleet :=
  match state with
  | .over outcome => (.over outcome, f)
  | state =>
    match f.pollStop n f.settings.grace state, f.controller? n with
    | (.over outcome, f), some c =>
      let (removed, registry) := f.registry.removeController c.key n
      let f := { f with registry := registry }
      (.over outcome, if removed then f else f.note (Log.debug
        "Cluster was declared again while its old controller stopped" (Controller.fields c.key)))
    | next, _ => next

def handleAll (f : Fleet) (changes : List Watch.Change) : Fleet := changes.foldl handle f

/-- The dispatch loop ends with a shutdown that goes on. -/
def pollDispatchClosing (f : Fleet) (state : Closing) : Dispatching × Fleet :=
  match f.pollClosing state with
  | (.finished _, f) => (.finished f.now, f)
  | (state, f) => (.closing state, f)

/-- The dispatch loop receives changes: being cancelled comes before a change, and the end of the
changes after the last one. -/
def receive (f : Fleet) (mailbox : Mailbox) : Mailbox × Dispatching × Fleet :=
  if f.cancelled then (mailbox, .finished f.now, f)
  else
    let f := f.handleAll mailbox.waiting
    let mailbox := { mailbox with waiting := [] }
    if mailbox.isOpen then (mailbox, .receiving, f)
    else
      let (state, f) := (f.note (Log.warn "Event stream ended, shutting down")).pollDispatchClosing
        .unborn
      (mailbox, state, f)

def pollDispatch (f : Fleet) (mailbox : Mailbox) (state : Dispatching) :
    Mailbox × Dispatching × Fleet :=
  match state with
  | .unborn =>
    let f := if f.phase = .starting then { f with phase := .running } else f
    (f.note (Log.info "Operator running")).receive mailbox
  | .receiving => f.receive mailbox
  | .closing state =>
    let (state, f) := f.pollDispatchClosing state
    (mailbox, state, f)
  | .finished moment => (mailbox, .finished moment, f)

/-- The dispatch loop has something to do. -/
def isDispatchReady (f : Fleet) (mailbox : Mailbox) (state : Dispatching) : Bool :=
  match state with
  | .unborn => true
  | .receiving => f.cancelled || !mailbox.waiting.isEmpty || !mailbox.isOpen
  | .closing state => f.isClosingReady state
  | .finished _ => false

end NatsFleet.Fleet
