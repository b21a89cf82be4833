import NatsFleet.Object.Metadata

/-!
Pods: what they run, and what the platform reports about them.
-/
namespace NatsFleet

structure ContainerPort where
  name : String
  port : Int32
  protocol : String
  deriving DecidableEq

/-- A volume as a container sees it. -/
structure VolumeMount where
  name : String
  path : String
  readOnly : Bool
  deriving DecidableEq

/-- A health check by an HTTP request, with times in seconds. -/
structure Probe where
  path : String
  port : Int32
  initialDelay : Nat
  period : Nat
  timeout : Nat
  deriving DecidableEq

structure Container where
  name : String
  image : String
  command : List String
  ports : List ContainerPort
  mounts : List VolumeMount
  liveness : Probe
  deriving DecidableEq

/-- Where the files of a volume come from. -/
inductive VolumeSource where
  | configMap (name : String)
  | secret (name : String)
  deriving DecidableEq

structure Volume where
  name : String
  source : VolumeSource
  deriving DecidableEq

structure PodSpec where
  hostname : String
  subdomain : String
  containers : List Container
  volumes : List Volume
  restartPolicy : String
  deriving DecidableEq

structure PodCondition where
  type : String := ""
  status : String := ""
  deriving DecidableEq

/-- What the platform reports about a pod. -/
structure PodStatus where
  phase : Option String := none
  conditions : Option (List PodCondition) := none
  deriving DecidableEq

structure Pod where
  metadata : ObjectMeta := {}
  spec : Option PodSpec := none
  status : Option PodStatus := none

namespace ContainerPort

def toJson (p : ContainerPort) : Json :=
  .object [("containerPort", .int p.port.toInt), ("name", .string p.name),
    ("protocol", .string p.protocol)]

end ContainerPort

namespace VolumeMount

def toJson (m : VolumeMount) : Json :=
  .object [("mountPath", .string m.path), ("name", .string m.name), ("readOnly", .bool m.readOnly)]

end VolumeMount

namespace Probe

def toJson (p : Probe) : Json :=
  .object [("httpGet", .object [("path", .string p.path), ("port", .int p.port.toInt)]),
    ("initialDelaySeconds", .nat p.initialDelay), ("periodSeconds", .nat p.period),
    ("timeoutSeconds", .nat p.timeout)]

end Probe

namespace Container

def toJson (c : Container) : Json :=
  .object [("command", .strings c.command), ("image", .string c.image),
    ("livenessProbe", c.liveness.toJson), ("name", .string c.name),
    ("ports", .array (c.ports.map ContainerPort.toJson)),
    ("volumeMounts", .array (c.mounts.map VolumeMount.toJson))]

end Container

namespace Volume

def toJson (v : Volume) : Json :=
  match v.source with
  | .configMap name =>
    .object [("configMap", .object [("name", .string name)]), ("name", .string v.name)]
  | .secret name =>
    .object [("name", .string v.name), ("secret", .object [("secretName", .string name)])]

end Volume

namespace Pod

def name (p : Pod) : String := p.metadata.anyName

/-- The pod is on its way out. -/
def isDeleting (p : Pod) : Bool := p.metadata.deletionTimestamp.isSome

/-- The value of a pod as it is declared, its status apart. -/
def toJson (p : Pod) : Json :=
  .object ([("apiVersion", .string "v1"), ("kind", .string "Pod"),
      ("metadata", p.metadata.toJson)] ++
    Json.optional "spec" (fun s => .object [
      ("containers", .array (s.containers.map Container.toJson)), ("hostname", .string s.hostname),
      ("restartPolicy", .string s.restartPolicy), ("subdomain", .string s.subdomain),
      ("volumes", .array (s.volumes.map Volume.toJson))]) p.spec)

end Pod

end NatsFleet
