import NatsFleet.Cluster.Condition

/-!
The observed state of a cluster.
-/
namespace NatsFleet

/-- Where a cluster is in its life. -/
inductive Phase where
  -- No pod has been observed yet.
  | pending
  -- Pods are being created for the first time.
  | creating
  -- The pods match the declared size and revision.
  | running
  -- Pods are being added or removed.
  | scaling
  -- Pods are being replaced by a new revision.
  | upgrading
  deriving DecidableEq

namespace Phase

def named : List (String × Phase) := [("Pending", pending), ("Creating", creating),
  ("Running", running), ("Scaling", scaling), ("Upgrading", upgrading)]

def name : Phase → String
  | pending => "Pending"
  | creating => "Creating"
  | running => "Running"
  | scaling => "Scaling"
  | upgrading => "Upgrading"

def toJson (p : Phase) : Json := .string p.name

def decoder : Json.Decoder Phase := .variant named

end Phase

structure ClusterStatus where
  phase : Phase := .pending
  -- The number of live pods.
  size : UInt32 := 0
  -- The number of pods that report ready.
  readySize : UInt32 := 0
  -- The release of the declared spec.
  version : String := ""
  conditions : List Condition := []
  lastUpdated : Option String := none
  deriving DecidableEq

namespace ClusterStatus

def toJson (s : ClusterStatus) : Json :=
  .object [("phase", s.phase.toJson), ("size", .nat s.size.toNat),
    ("readySize", .nat s.readySize.toNat), ("version", .string s.version),
    ("conditions", .array (s.conditions.map Condition.toJson)),
    ("lastUpdated", .ofOption .string s.lastUpdated)]

def slots : List (Json.Slot ClusterStatus) := [
  .optional "phase" Phase.decoder fun s x => { s with phase := x },
  .optional "size" .natural32 fun s x => { s with size := x },
  .optional "readySize" .natural32 fun s x => { s with readySize := x },
  .optional "version" .string fun s x => { s with version := x },
  .optional "conditions" (.list Condition.decoder) fun s x => { s with conditions := x },
  .optional "lastUpdated" (.option .string) fun s x => { s with lastUpdated := x }]

def decoder : Json.Decoder ClusterStatus := .record "NatsClusterStatus" slots {}

end ClusterStatus

end NatsFleet
