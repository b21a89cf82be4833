import NatsFleet.Json.Decode
import NatsFleet.Timestamp

/-!
Conditions: named observations with a status, which remember when the status last changed.
-/
namespace NatsFleet

structure Condition where
  type : String := ""
  status : String := ""
  lastTransitionTime : Option String := none
  reason : Option String := none
  message : Option String := none
  deriving DecidableEq

namespace Condition

/-- The status of a condition that holds. -/
def statusTrue : String := "True"

/-- The status of a condition that does not hold. -/
def statusFalse : String := "False"

def build (type status reason message : String) (now : Timestamp) : Condition :=
  ⟨type, status, some now.full, some reason, some message⟩

/-- Puts a new observation into a list: it takes the place of the first condition of its type, which
keeps its transition time while the status stays the same, or the end of the list. -/
def set (new : Condition) : List Condition → List Condition
  | [] => [new]
  | c :: rest =>
    if c.type = new.type then
      (if c.status ≠ new.status then new
        else { c with reason := new.reason, message := new.message }) :: rest
    else c :: set new rest

/-- Two conditions agree on type, status and reason. -/
def agrees (a b : Condition) : Bool :=
  b.type == a.type && b.status == a.status && b.reason == a.reason

/-- Two lists have the same length, and each condition of the first agrees with one of the
second. -/
def same (as bs : List Condition) : Bool :=
  as.length == bs.length && as.all fun a => bs.any fun b => agrees a b

def toJson (c : Condition) : Json :=
  .object [("type", .string c.type), ("status", .string c.status),
    ("lastTransitionTime", .ofOption .string c.lastTransitionTime),
    ("reason", .ofOption .string c.reason), ("message", .ofOption .string c.message)]

def slots : List (Json.Slot Condition) := [
  .mandatory "type" .string fun c x => { c with type := x },
  .mandatory "status" .string fun c x => { c with status := x },
  .optional "lastTransitionTime" (.option .string) fun c x => { c with lastTransitionTime := x },
  .optional "reason" (.option .string) fun c x => { c with reason := x },
  .optional "message" (.option .string) fun c x => { c with message := x }]

def decoder : Json.Decoder Condition := .record "ClusterCondition" slots {}

end Condition

end NatsFleet
