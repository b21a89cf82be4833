/-!
How long watching pauses after each trouble: twice as long as after the one before, up to half a
minute, and as long as the first time once there was none for two minutes.
-/
namespace NatsFleet.Watch

/-- The last pause and the moment at which it began, in milliseconds. -/
structure Backoff where
  pause : Option Nat := none
  began : Option Nat := none

namespace Backoff

def shortest : Nat := 800

def longest : Nat := 30000

/-- How long after a pause the next one starts anew. -/
def memory : Nat := 120000

def next (b : Backoff) (now : Nat) : Nat × Backoff :=
  let last := if b.began.any fun began => began + memory < now then none else b.pause
  let pause := match last with
    | none => shortest
    | some ms => min (2 * ms) longest
  (pause, ⟨some pause, some now⟩)

end Backoff

end NatsFleet.Watch
