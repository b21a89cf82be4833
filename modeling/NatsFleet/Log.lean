/-!
Log entries: a level, a message and named texts, with the span they were written in.
-/
namespace NatsFleet.Log

inductive Level where
  | error
  | warn
  | info
  | debug
  | trace
  deriving DecidableEq

def Level.name : Level → String
  | .error => "ERROR"
  | .warn => "WARN"
  | .info => "INFO"
  | .debug => "DEBUG"
  | .trace => "TRACE"

structure Entry where
  level : Level
  message : String
  fields : List (String × String) := []
  span : List (String × String) := []

def error (message : String) (fields : List (String × String) := []) : Entry :=
  ⟨.error, message, fields, []⟩

/-- An entry about something that went wrong and is tried again. -/
def warn (message : String) (fields : List (String × String) := []) : Entry :=
  ⟨.warn, message, fields, []⟩

def info (message : String) (fields : List (String × String) := []) : Entry :=
  ⟨.info, message, fields, []⟩

/-- An entry for following what happens in detail. -/
def debug (message : String) (fields : List (String × String) := []) : Entry :=
  ⟨.debug, message, fields, []⟩

/-- The entry as written inside a span. -/
def Entry.within (span : List (String × String)) (e : Entry) : Entry := { e with span := span }

/-- A duration as entries show it: in seconds, or in milliseconds if it has none. -/
def duration (ms : Nat) : String :=
  if ms = 0 then "0ns"
  else if ms < 1000 then toString ms ++ "ms"
  else
    let rest := ms % 1000
    let digits := Nat.toDigits 10 rest
    let places := List.replicate (3 - digits.length) '0' ++ digits
    let kept := (places.reverse.dropWhile (· = '0')).reverse
    if kept.isEmpty then toString (ms / 1000) ++ "s"
    else toString (ms / 1000) ++ "." ++ String.ofList kept ++ "s"

end NatsFleet.Log
