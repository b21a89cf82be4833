import NatsFleet.Cluster.Spec

/-!
What changed between two specs.
-/
namespace NatsFleet

structure SpecDiff where
  -- The old and the new size, if they differ.
  size : Option (UInt32 × UInt32) := none
  -- The old and the new version, if they differ.
  version : Option (String × String) := none
  image : Bool := false
  tls : Bool := false
  logging : Bool := false
  deriving DecidableEq

namespace SpecDiff

/-- What changed from one spec to another. -/
def between (old new : ClusterSpec) : SpecDiff where
  size := if old.size ≠ new.size then some (old.size, new.size) else none
  version := if old.version ≠ new.version then some (old.version, new.version) else none
  image := old.serverImage ≠ new.serverImage
  tls := old.tls ≠ new.tls
  logging := old.logging ≠ new.logging

def isEmpty (d : SpecDiff) : Bool :=
  d.size.isNone && d.version.isNone && !d.image && !d.tls && !d.logging

end SpecDiff

end NatsFleet
