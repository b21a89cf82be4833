import NatsFleet.Cluster.Basic

/-!
Maps from cluster keys, as lists with at most one entry per key.
-/
namespace NatsFleet

abbrev KeyMap (α : Type) := List (ClusterKey × α)

namespace KeyMap

variable {α : Type}

def find? (m : KeyMap α) (k : ClusterKey) : Option α :=
  match m with
  | [] => none
  | (k', a) :: rest => if k' = k then some a else find? rest k

/-- The map with a new value for a key, which keeps its place. -/
def put (m : KeyMap α) (k : ClusterKey) (a : α) : KeyMap α :=
  match m with
  | [] => [(k, a)]
  | (k', a') :: rest => if k' = k then (k, a) :: rest else (k', a') :: put rest k a

def erase (m : KeyMap α) (k : ClusterKey) : KeyMap α := m.filter fun e => e.1 ≠ k

end KeyMap

end NatsFleet
