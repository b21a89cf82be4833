import NatsFleet.Cluster.Diff
import NatsFleet.Controller.Pass
import NatsFleet.Controller.Signal

/-!
A controller: what it was told to converge to, what it remembers, and the signals that reach it.
-/
namespace NatsFleet

structure Controller where
  key : ClusterKey
  identity : Identity
  -- The declared spec.
  spec : ClusterSpec
  memory : Memory := {}
  -- No further pass is to start.
  cancelled : Bool := false
  -- The signal that the spec has changed.
  wake : Signal := {}
  -- The loop has been started.
  started : Bool := false
  -- The loop has returned.
  done : Bool := false
  -- Someone waits, or has waited, for the loop to return.
  awaited : Bool := false
  -- Shutting down waits until the stop of this controller is complete.
  supervised : Bool := false
  -- What the log entries of the loop are marked with.
  span : List (String × String) := []

namespace Controller

def ofCluster (c : Cluster) : Controller where
  key := c.key
  identity := c.identity
  spec := c.spec

/-- The namespace and the name, as log entries have them. -/
def fields (k : ClusterKey) : List (String × String) :=
  [("namespace", k.namespaceName), ("cluster", k.name)]

/-- Stores a new spec, and wakes the loop if it differs. -/
def update (c : Controller) (spec : ClusterSpec) : SpecDiff × Controller :=
  let diff := SpecDiff.between c.spec spec
  (diff, if diff.isEmpty then c else { c with spec := spec, wake := c.wake.give })

/-- What a pass of the controller reads and writes besides the platform. -/
def desk (c : Controller) (draws : Draws) (now : Timestamp) : Desk where
  spec := c.spec
  memory := c.memory
  draws := draws
  now := now

end Controller

end NatsFleet
