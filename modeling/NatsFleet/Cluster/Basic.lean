import NatsFleet.Cluster.Spec
import NatsFleet.Cluster.Status
import NatsFleet.Object.Metadata

/-!
Declared clusters as the platform stores them, the keys they are registered under, and the identity
that their objects carry.
-/
namespace NatsFleet

structure Cluster where
  metadata : ObjectMeta := {}
  spec : ClusterSpec := {}
  status : Option ClusterStatus := none

/-- What a declared cluster is registered under. -/
structure ClusterKey where
  namespaceName : String
  name : String
  deriving DecidableEq

/-- What the objects of a cluster carry: its name, its namespace and its owner reference. -/
structure Identity where
  name : String
  namespaceName : String
  owner : Option OwnerReference := none
  deriving DecidableEq

namespace ClusterKey

def text (k : ClusterKey) : String := k.namespaceName ++ "/" ++ k.name

/-- The order of keys: by namespace, then by name. -/
def le (a b : ClusterKey) : Bool :=
  a.namespaceName < b.namespaceName || (a.namespaceName == b.namespaceName && a.name ≤ b.name)

end ClusterKey

namespace Cluster

def apiVersion : String := "messaging.nats.io/v1alpha2"

def kind : String := "NatsCluster"

def name (c : Cluster) : String := c.metadata.anyName

def namespaceName (c : Cluster) : String := c.metadata.scope.getD "default"

def key (c : Cluster) : ClusterKey := ⟨c.namespaceName, c.name⟩

/-- The reference that makes a cluster the owner of its objects, once its UID is known. -/
def ownerReference (c : Cluster) : Option OwnerReference :=
  c.metadata.uid.map fun uid =>
    { apiVersion := apiVersion, kind := kind, name := c.name, uid := uid,
      controller := some true, blockOwnerDeletion := some true }

/-- The identity that the objects of a cluster carry. -/
def identity (c : Cluster) : Identity := ⟨c.name, c.namespaceName, c.ownerReference⟩

def toJson (c : Cluster) : Json :=
  .object ([("apiVersion", .string apiVersion), ("kind", .string kind),
    ("metadata", c.metadata.toJson), ("spec", c.spec.toJson)] ++
    Json.optional "status" ClusterStatus.toJson c.status)

def slots : List (Json.Slot Cluster) := [
  .mandatory "metadata" ObjectMeta.decoder fun c x => { c with metadata := x },
  .mandatory "spec" ClusterSpec.decoder fun c x => { c with spec := x },
  .optional "status" (.option ClusterStatus.decoder) fun c x => { c with status := x }]

def decoder : Json.Decoder Cluster := .record "NatsCluster" slots {}

end Cluster

end NatsFleet
