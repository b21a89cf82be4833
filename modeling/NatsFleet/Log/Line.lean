import NatsFleet.Json.Basic
import NatsFleet.Log
import NatsFleet.Timestamp

/-!
Log entries as lines of a log, each of which is an object.
-/
namespace NatsFleet.Log

def Entry.toJson (e : Entry) : Json :=
  .object (("message", .string e.message) :: e.fields.map fun f => (f.1, .string f.2))

/-- The moment of an entry, to the microsecond. -/
def momentText (t : Timestamp) : String :=
  t.dateTime ++ "." ++ Timestamp.padded 6 (t.nanos / 1000) ++ "Z"

/-- An entry with its moment and its target. -/
def Entry.line (e : Entry) (moment : Timestamp) (target : String) : Json :=
  .object [("timestamp", .string (momentText moment)), ("level", .string e.level.name),
    ("fields", e.toJson), ("target", .string target)]

end NatsFleet.Log
