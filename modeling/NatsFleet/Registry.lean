import NatsFleet.Cluster.KeyMap
import NatsFleet.Failure

/-!
The registry of controllers: at most one per key. Controllers are told apart by their numbers, and
one that is stopping no longer holds its key.
-/
namespace NatsFleet

structure Registry where
  entries : KeyMap Nat := []

namespace Registry

def find? (r : Registry) (k : ClusterKey) : Option Nat := r.entries.find? k

/-- A controller that is not stopping holds the key. -/
def holds (r : Registry) (stopping : Nat → Bool) (k : ClusterKey) : Bool :=
  match r.find? k with
  | none => false
  | some n => !stopping n

/-- Registers a controller under a key that no other one holds. -/
def insert (r : Registry) (stopping : Nat → Bool) (k : ClusterKey) (controller : Nat) :
    Except Failure Registry :=
  if r.holds stopping k then .error (.duplicateRegistration k.text)
  else .ok ⟨r.entries.put k controller⟩

def remove (r : Registry) (k : ClusterKey) : Option Nat × Registry :=
  (r.find? k, ⟨r.entries.erase k⟩)

/-- Removes a controller if it is the one registered under its key. -/
def removeController (r : Registry) (k : ClusterKey) (controller : Nat) : Bool × Registry :=
  if r.find? k = some controller then (true, ⟨r.entries.erase k⟩) else (false, r)

def snapshot (r : Registry) : List Nat := r.entries.map (·.2)

def size (r : Registry) : Nat := r.entries.length

end Registry

end NatsFleet
