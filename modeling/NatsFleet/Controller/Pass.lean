import NatsFleet.Controller.Plan
import NatsFleet.Failure
import NatsFleet.Log
import NatsFleet.Naming

/-!
One pass of a controller: it ensures the services, lists the pods, removes and creates what its plan
says, writes the configuration when it changed, and publishes the status when it changed. A pass is
a sequence of requests; it stands at one of them until the reply comes.
-/
namespace NatsFleet

/-- What a controller asks of the platform. -/
inductive Request where
  | createService (service : Service)
  | applyConfigMap (config : ConfigMap)
  | createPod (pod : Pod)
  | listPods (selector : String)
  | deletePod (name : String)
  | patchStatus (name : String) (status : ClusterStatus)

/-- What the platform replies: the listed pods, and none to any other request. -/
abbrev Reply := Except Failure (List Pod)

/-- What a controller remembers from one pass to the next. -/
structure Memory where
  -- The pods of the last pass, in the order of their names.
  pods : List PodRecord := []
  -- The configuration that the last write left in place, unless it failed.
  config : Option String := none
  -- The status published last.
  status : Option ClusterStatus := none

/-- What a pass reads and writes besides the platform: the declared spec, the controller's memory,
the random source, the wall clock's present reading, and the log. -/
structure Desk where
  spec : ClusterSpec
  memory : Memory := {}
  draws : Draws
  now : Timestamp
  log : List Log.Entry := []

def Desk.note (d : Desk) (e : Log.Entry) : Desk := { d with log := d.log ++ [e] }

/-- What a pass works from once its names are planned. -/
structure Work where
  spec : ClusterSpec
  plan : Plan
  -- The names of the pods to create.
  planned : List String

namespace Pass

inductive Stage where
  -- The first of these services is being created.
  | services (todo : List Service)
  -- The pods are being listed.
  | listing (spec : ClusterSpec)
  -- The first of these pods is being removed.
  | removing (spec : ClusterSpec) (plan : Plan) (todo : List Removal)
  -- Fresh names are being looked for, without end.
  | naming
  -- The configuration is being written.
  | configuring (work : Work)
  -- The first of these pods is being created; the records are those of the pods there are.
  | creating (work : Work) (todo : List String) (records : List PodRecord)
  -- The status is being published.
  | publishing (status : ClusterStatus)
  | finished

def services (id : Identity) (spec : ClusterSpec) : List Service :=
  [Manifest.routesService id spec, Manifest.clientService id spec]

def config (id : Identity) (w : Work) : ServerConfig :=
  .forCluster w.spec (w.plan.routes id w.planned)

/-- The request at which a pass stands. -/
def Stage.request? (id : Identity) : Stage → Option Request
  | .services (s :: _) => some (.createService s)
  | .listing _ => some (.listPods (Manifest.labelSelector id.name))
  | .removing _ _ (r :: _) => some (.deletePod r.name)
  | .configuring w => some (.applyConfigMap (Manifest.configMap id w.spec (config id w)))
  | .creating w (name :: _) _ => some (.createPod (Manifest.pod id w.spec name))
  | .publishing status => some (.patchStatus id.name status)
  | _ => none

/-- Adds a record in the order of names; a record of that name is replaced. -/
def putRecord (r : PodRecord) : List PodRecord → List PodRecord
  | [] => [r]
  | s :: rest =>
    if r.name < s.name then r :: s :: rest
    else if r.name = s.name then r :: rest
    else s :: putRecord r rest

def keptRecords (p : Plan) : List PodRecord :=
  p.kept.foldl (fun records q => putRecord q.record records) []

/-- The record of a pod that has just been created. -/
def newRecord (id : Identity) (name : String) : PodRecord :=
  ⟨name, Manifest.routeAddress name id.name id.namespaceName, .pending⟩

/-- The condition that tells whether all servers are ready. -/
def readyCondition (spec : ClusterSpec) (phase : Phase) (ready : Nat) (now : Timestamp) :
    Condition :=
  let all := ready = spec.size.toNat ∧ phase = .running
  Condition.build "Ready" (if all then Condition.statusTrue else Condition.statusFalse)
    (if all then "AllServersReady" else "ServersNotReady")
    (toString ready ++ "/" ++ toString spec.size.toNat ++ " servers ready") now

/-- The condition that tells whether the cluster is being changed. -/
def progressCondition (spec : ClusterSpec) (phase : Phase) (size : Nat) (now : Timestamp) :
    Condition :=
  Condition.build "Progressing"
    (if phase = .running then Condition.statusFalse else Condition.statusTrue)
    (match phase with
      | .running => "UpToDate"
      | .upgrading => "RollingUpgrade"
      | _ => "Scaling")
    (toString size ++ " of " ++ toString spec.size.toNat ++ " servers created") now

/-- The status after a pass; its conditions go on from those published last. -/
def status (spec : ClusterSpec) (phase : Phase) (size ready : Nat)
    (published : Option ClusterStatus) (now : Timestamp) : ClusterStatus where
  phase := phase
  size := size.toUInt32
  readySize := ready.toUInt32
  version := spec.version
  conditions := (progressCondition spec phase size now).set
    ((readyCondition spec phase ready now).set ((published.map (·.conditions)).getD []))
  lastUpdated := some now.full

/-- A status says what the one published last says, times and messages apart. -/
def unchanged (published : Option ClusterStatus) (s : ClusterStatus) : Bool :=
  match published with
  | none => false
  | some p =>
    p.phase == s.phase && p.size == s.size && p.readySize == s.readySize &&
      p.version == s.version && Condition.same p.conditions s.conditions

/-- The pods are as they will be: their records are kept, and the status is published if it says
something new. -/
def conclude (w : Work) (records : List PodRecord) (d : Desk) : Stage × Desk :=
  let phase := w.plan.phase w.spec w.planned records.length
  let s := status w.spec phase records.length w.plan.ready d.memory.status d.now
  let d := { d with memory := { d.memory with pods := records } }
  if unchanged d.memory.status s then (.finished, d) else (.publishing s, d)

/-- The next pod is created, if one is left. -/
def create (w : Work) (todo : List String) (records : List PodRecord) (d : Desk) : Stage × Desk :=
  match todo with
  | [] => conclude w records d
  | _ :: _ => (.creating w todo records, d)

/-- The configuration is written unless it is in place. -/
def configure (id : Identity) (w : Work) (d : Desk) : Stage × Desk :=
  if d.memory.config = some (config id w).render then create w w.planned (keptRecords w.plan) d
  else (.configuring w, d)

/-- The names of the new pods are planned. -/
def name (id : Identity) (fuel : Nat) (spec : ClusterSpec) (plan : Plan) (d : Desk) :
    Stage × Desk :=
  match Naming.plan id.name fuel plan.keptNames (plan.shortfall spec) d.draws with
  | none => (.naming, d)
  | some (planned, draws) => configure id ⟨spec, plan, planned⟩ { d with draws := draws }

def removalEntry (r : Removal) : Log.Entry :=
  match r.cause with
  | .terminated =>
    Log.info "Replacing terminated pod" [("pod", r.name), ("phase", r.phase.name)]
  | .surplus => Log.info "Removing pod above desired size" [("pod", r.name)]
  | .broken =>
    Log.info "Replacing unhealthy pod built from an older spec"
      [("pod", r.name), ("phase", r.phase.name)]
  | .outdated => Log.info "Replacing pod built from an older spec" [("pod", r.name)]

/-- The next pod is removed, if one is left. -/
def remove (id : Identity) (fuel : Nat) (spec : ClusterSpec) (plan : Plan) (todo : List Removal)
    (d : Desk) : Stage × Desk :=
  match todo with
  | [] => name id fuel spec plan d
  | r :: _ => (.removing spec plan todo, d.note (removalEntry r))

def start (id : Identity) (spec : ClusterSpec) : Stage := .services (services id spec)

/-- A pass goes on after the reply to its request. -/
def resume (id : Identity) (fuel : Nat) (stage : Stage) (reply : Reply) (d : Desk) : Stage × Desk :=
  match stage with
  | .services [] => (.listing d.spec, d)
  | .services (s :: rest) =>
    let service := ("service", s.metadata.anyName)
    let d := d.note (match reply with
      | .ok _ => Log.info "Created service" [service]
      | .error (.alreadyExists _) => Log.debug "Service already exists" [service]
      | .error e => Log.warn "Failed to create service" [service, ("error", e.message)])
    (if rest.isEmpty then .listing d.spec else .services rest, d)
  | .listing spec =>
    match reply with
    | .error e => (.finished, d.note (Log.warn "Failed to list pods" [("error", e.message)]))
    | .ok listed =>
      let plan := Plan.ofListing id spec listed
      remove id fuel spec plan plan.removals d
  | .removing spec plan [] => name id fuel spec plan d
  | .removing spec plan (r :: rest) =>
    let d := match reply with
      | .ok _ => d
      | .error e =>
        d.note (Log.warn "Failed to delete pod" [("pod", r.name), ("error", e.message)])
    remove id fuel spec plan rest d
  | .naming => (.naming, d)
  | .configuring w =>
    let d := match reply with
      | .ok _ =>
        let d := d.note (Log.info "Applied configuration"
          [("routes", toString (w.plan.routes id w.planned).length)])
        { d with memory := { d.memory with config := some (config id w).render } }
      | .error e =>
        let d := d.note (Log.warn "Failed to apply configuration" [("error", e.message)])
        { d with memory := { d.memory with config := none } }
    create w w.planned (keptRecords w.plan) d
  | .creating w [] records => conclude w records d
  | .creating w (name :: rest) records =>
    match reply with
    | .ok _ =>
      create w rest (putRecord (newRecord id name) records)
        (d.note (Log.info "Created pod"
          [("pod", name), ("version", Text.quotedOption (some w.spec.version))]))
    | .error (.alreadyExists _) =>
      create w rest records
        (d.note (Log.warn "Pod name collision, retrying on the next pass" [("pod", name)]))
    | .error e =>
      create w rest records
        (d.note (Log.warn "Failed to create pod" [("pod", name), ("error", e.message)]))
  | .publishing s =>
    match reply with
    | .ok _ => (.finished, { d with memory := { d.memory with status := some s } })
    | .error e =>
      (.finished, d.note (Log.warn "Failed to update cluster status" [("error", e.message)]))
  | .finished => (.finished, d)

end Pass

end NatsFleet
