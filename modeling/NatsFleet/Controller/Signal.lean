/-!
The wake-up signal of a controller's loop. A signal given while the loop waits is handed to it; one
given at any other time, or while one is handed over already, is stored, and at most one is stored.
-/
namespace NatsFleet

structure Signal where
  -- The loop waits for the signal.
  waiting : Bool := false
  -- The signal has been handed to the waiting loop, which has not noticed yet.
  handed : Bool := false
  -- A signal is stored for the next wait.
  stored : Bool := false
  deriving DecidableEq

namespace Signal

def give (s : Signal) : Signal :=
  if s.waiting && !s.handed then { s with handed := true } else { s with stored := true }

def isGiven (s : Signal) : Bool := s.handed || s.stored

/-- The loop notices the signal: the one handed to it, or else the stored one. -/
def take (s : Signal) : Signal :=
  if s.handed then { waiting := false, handed := false, stored := s.stored } else {}

def park (s : Signal) : Signal := { s with waiting := true }

/-- The loop stops waiting for another reason, and what was handed to it is stored. -/
def leave (s : Signal) : Signal := { stored := s.isGiven }

end Signal

end NatsFleet
