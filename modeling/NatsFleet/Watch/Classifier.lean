import NatsFleet.Cluster.KeyMap

/-!
What watching reports, and the changes that it amounts to. Watching reports current objects only, so
the last object of each key is remembered: an object that changes nothing declared is no change, and
a key that a new listing no longer has was deleted.
-/
namespace NatsFleet.Watch

inductive Report where
  -- A new listing starts.
  | listing
  -- An object of the listing.
  | listed (c : Cluster)
  -- The listing is complete.
  | complete
  -- An object was created or written.
  | applied (c : Cluster)
  -- An object was deleted.
  | deleted (c : Cluster)

inductive Change where
  | added (c : Cluster)
  | updated (old new : Cluster)
  | deleted (c : Cluster)

namespace Change

/-- The key of the cluster that changed. -/
def key : Change → ClusterKey
  | .added c | .deleted c => c.key
  | .updated _ new => new.key

end Change

/-- The last object of each key, and the keys of a listing that is not complete. -/
structure Classifier where
  seen : KeyMap Cluster := []
  relisted : Option (List ClusterKey) := none

namespace Classifier

/-- Remembers an object, and says what it changes. -/
def apply (s : Classifier) (c : Cluster) : List Change × Classifier :=
  let changes := match s.seen.find? c.key with
    | none => [.added c]
    | some old => if old.spec ≠ c.spec then [.updated old c] else []
  (changes, { s with seen := s.seen.put c.key c })

/-- The remembered objects whose keys a listing lacks, in the order of their keys. -/
def gone (s : Classifier) (relisted : List ClusterKey) : List Cluster :=
  let entries := s.seen.filter fun e => e.1 ∉ relisted
  (entries.mergeSort fun a b => ClusterKey.le a.1 b.1).map (·.2)

/-- The changes that a report amounts to. -/
def classify (s : Classifier) : Report → List Change × Classifier
  | .listing => ([], { s with relisted := some [] })
  | .listed c =>
    apply { s with relisted := s.relisted.map (c.key :: ·) } c
  | .complete =>
    match s.relisted with
    | none => ([], s)
    | some relisted =>
      ((s.gone relisted).map .deleted,
        { seen := s.seen.filter fun e => e.1 ∈ relisted, relisted := none })
  | .applied c => s.apply c
  | .deleted c => ([.deleted c], { s with seen := s.seen.erase c.key })

end Classifier

end NatsFleet.Watch
