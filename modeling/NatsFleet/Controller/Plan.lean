import NatsFleet.Manifest

/-!
What a pass does with the pods it finds: which of them it removes and in what order, which it keeps,
and how many it has to create. The plan depends on the listing, the spec and nothing else.
-/
namespace NatsFleet

/-- Where a pod is in its life, as far as a controller cares. -/
inductive PodPhase where
  | pending
  | running
  | succeeded
  | failed
  | unknown
  deriving DecidableEq

namespace PodPhase

/-- The phase of a pod; one that reports none of the others is unknown. -/
def ofPod (p : Pod) : PodPhase :=
  match p.status.bind (·.phase) with
  | some "Pending" => pending
  | some "Running" => running
  | some "Succeeded" => succeeded
  | some "Failed" => failed
  | _ => unknown

def name : PodPhase → String
  | pending => "Pending"
  | running => "Running"
  | succeeded => "Succeeded"
  | failed => "Failed"
  | unknown => "Unknown"

/-- A pod in this phase has finished, and is never restarted. -/
def isTerminated : PodPhase → Bool
  | succeeded | failed => true
  | _ => false

end PodPhase

/-- A pod of a cluster as its controller remembers it. -/
structure PodRecord where
  name : String
  address : String
  phase : PodPhase
  deriving DecidableEq

/-- A pod that is neither on its way out nor finished. -/
structure LivePod where
  record : PodRecord
  revision : Option String
  created : Option Timestamp
  ready : Bool
  deriving DecidableEq

namespace LivePod

/-- A pod reports that it is ready. -/
def isReady (p : Pod) : Bool :=
  ((p.status.bind (·.conditions)).getD []).any fun c =>
    c.type == "Ready" && c.status == Condition.statusTrue

def ofPod (id : Identity) (p : Pod) : LivePod where
  record := ⟨p.name, Manifest.routeAddress p.name id.name id.namespaceName, PodPhase.ofPod p⟩
  revision := p.metadata.label? Layout.revisionLabel
  created := p.metadata.creationTimestamp
  ready := isReady p

def isHealthy (p : LivePod) : Bool := p.record.phase == .running && p.ready

/-- The pod was built from another revision. -/
def isOutdated (revision : String) (p : LivePod) : Bool := p.revision != some revision

end LivePod

/-- The order of moments, an unknown one first: strictly before. -/
def Timestamp.before : Option Timestamp → Option Timestamp → Bool
  | none, none => false
  | none, some _ => true
  | some _, none => false
  | some a, some b => a.seconds < b.seconds || (a.seconds == b.seconds && a.nanos < b.nanos)

/-- The order of live pods: by creation, then by name. -/
def LivePod.le (a b : LivePod) : Bool :=
  Timestamp.before a.created b.created ||
    (!Timestamp.before b.created a.created && a.record.name ≤ b.record.name)

inductive RemovalCause where
  -- It has finished.
  | terminated
  -- There are more pods than declared.
  | surplus
  -- It was built from another revision and does not serve.
  | broken
  -- It was built from another revision.
  | outdated
  deriving DecidableEq

structure Removal where
  cause : RemovalCause
  name : String
  phase : PodPhase
  deriving DecidableEq

/-- What a pass does with the pods it finds. -/
structure Plan where
  -- The pods to remove, in order.
  removals : List Removal
  -- The pods to keep, in the order of their creation.
  kept : List LivePod
  -- The number of live pods found.
  observed : Nat
  -- A live pod is removed because of its revision.
  replaced : Bool

namespace Plan

/-- The pods that are not on their way out. -/
def present (listed : List Pod) : List Pod := listed.filter fun p => !p.isDeleting

/-- The removals of the pods that have finished. -/
def terminated (listed : List Pod) : List Removal :=
  ((present listed).filter fun p => (PodPhase.ofPod p).isTerminated).map fun p =>
    ⟨.terminated, p.name, PodPhase.ofPod p⟩

/-- The live pods, in the order of their creation. -/
def live (id : Identity) (listed : List Pod) : List LivePod :=
  (((present listed).filter fun p => !(PodPhase.ofPod p).isTerminated).map
    (LivePod.ofPod id)).mergeSort LivePod.le

def removal (cause : RemovalCause) (p : LivePod) : Removal := ⟨cause, p.record.name, p.record.phase⟩

/-- What is done with as many live pods as are declared. Outdated pods that do not serve are all
replaced; else, while every pod serves, the first outdated one is. -/
def refresh (revision : String) (pods : List LivePod) : List Removal × List LivePod :=
  let isBroken (p : LivePod) := p.isOutdated revision && !p.isHealthy
  let broken := pods.filter isBroken
  let kept := pods.filter fun p => !isBroken p
  if !broken.isEmpty then (broken.map (removal .broken), kept)
  else if kept.all LivePod.isHealthy then
    match kept.find? (LivePod.isOutdated revision) with
    | none => ([], kept)
    | some p => ([removal .outdated p], kept.eraseIdx (kept.findIdx (LivePod.isOutdated revision)))
  else ([], kept)

/-- The plan for a listing. Above the declared size the newest pods go, the newest first. -/
def ofListing (id : Identity) (spec : ClusterSpec) (listed : List Pod) : Plan :=
  let pods := live id listed
  let desired := spec.size.toNat
  if desired < pods.length then
    { removals := terminated listed ++ (pods.drop desired).reverse.map (removal .surplus)
      kept := pods.take desired, observed := pods.length, replaced := false }
  else if pods.length = desired then
    let (removals, kept) := refresh (Revision.ofSpec spec) pods
    { removals := terminated listed ++ removals
      kept := kept, observed := pods.length, replaced := !removals.isEmpty }
  else
    { removals := terminated listed, kept := pods, observed := pods.length, replaced := false }

/-- A kept pod was built from another revision. -/
def outdatedRemains (spec : ClusterSpec) (p : Plan) : Bool :=
  p.kept.any (LivePod.isOutdated (Revision.ofSpec spec))

def shortfall (spec : ClusterSpec) (p : Plan) : Nat := spec.size.toNat - p.kept.length

def keptNames (p : Plan) : List String := p.kept.map (·.record.name)

/-- The routes of the cluster: the kept pods, then the new ones. -/
def routes (id : Identity) (p : Plan) (planned : List String) : List String :=
  p.kept.map (·.record.address) ++
    planned.map fun name => Manifest.routeAddress name id.name id.namespaceName

/-- The number of kept pods that are ready. -/
def ready (p : Plan) : Nat := (p.kept.filter (·.ready)).length

/-- The phase of the cluster after a pass that planned new pods and ends with `size` pods. -/
def phase (spec : ClusterSpec) (p : Plan) (planned : List String) (size : Nat) : Phase :=
  if p.observed = 0 ∧ planned ≠ [] then .creating
  else if p.observed ≠ spec.size.toNat ∨ size ≠ spec.size.toNat then .scaling
  else if p.replaced || p.outdatedRemains spec then .upgrading
  else .running

end Plan

end NatsFleet
