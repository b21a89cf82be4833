import NatsFleet.Cluster.Condition
import NatsFleet.Failure
import NatsFleet.Log

/-!
The registration of a custom resource definition: it is created unless it exists, and then read
again and again until it is established, its names are refused, or time runs out.
-/
namespace NatsFleet

inductive Registration where
  -- The API server serves the resource.
  | established
  -- The resource was not served in time, which may still change.
  | timedOut
  deriving DecidableEq

/-- An observation of the API server about a definition. -/
structure DefinitionCondition where
  type : String := ""
  status : String := ""
  reason : Option String := none
  deriving DecidableEq

/-- What a reading of a definition tells. -/
inductive Readiness where
  | established
  | pending
  | nameConflict (reason : String)
  deriving DecidableEq

namespace Readiness

/-- What the conditions of a definition tell; refused names come first. -/
def ofConditions (conditions : List DefinitionCondition) : Readiness :=
  match conditions.find? fun c =>
      c.type == "NamesAccepted" && c.status == Condition.statusFalse with
  | some c => .nameConflict (c.reason.getD "")
  | none =>
    if conditions.any fun c => c.type == "Established" && c.status == Condition.statusTrue then
      .established
    else .pending

end Readiness

/-- A registration: the name of the definition, the period of the readings and the time they may
take altogether, in milliseconds. Times are ideal and have no bound: a clock of bounded range gives up on a
deadline past its end, where this one goes on. -/
structure Registrar where
  name : String
  interval : Nat
  timeout : Nat

/-- A reading of a definition: its conditions, none at all when it has no status, or nothing when
there is no definition. -/
abbrev Reading := Except Failure (Option (Option (List DefinitionCondition)))

namespace Registrar

inductive Stage where
  -- Readings go on until the deadline.
  | reading (deadline : Nat)
  -- The next reading waits.
  | pausing (deadline wakeUp : Nat)
  | finished (result : Except Failure Registration)

def fields (r : Registrar) : List (String × String) := [("crd", r.name)]

/-- The definition has been created, or not. -/
def created (r : Registrar) (now : Nat) : Except Failure Unit → List Log.Entry × Stage
  | .ok () => ([Log.info "CRD created" r.fields], .reading (now + r.timeout))
  | .error (.alreadyExists _) =>
    ([Log.info "CRD already exists" r.fields], .reading (now + r.timeout))
  | .error e => ([], .finished (.error (.registration (.createFailed e.message))))

/-- The next reading waits for one period, unless the deadline comes first. -/
def wait (r : Registrar) (now deadline : Nat) : List Log.Entry × Stage :=
  if deadline < now + r.interval then
    ([Log.warn "Gave up waiting for CRD to be established, continuing in degraded mode"
        (r.fields ++ [("timeout", Log.duration r.timeout)])], .finished (.ok .timedOut))
  else ([], .pausing deadline (now + r.interval))

def read (r : Registrar) (now deadline : Nat) (reading : Reading) : List Log.Entry × Stage :=
  let (entries, stage?) : List Log.Entry × Option Stage := match reading with
    | .error e =>
      ([Log.warn "Failed to read CRD status" (r.fields ++ [("error", e.message)])], none)
    | .ok none => ([Log.debug "CRD not found yet" r.fields], none)
    | .ok (some conditions) =>
      match Readiness.ofConditions (conditions.getD []) with
      | .established =>
        ([Log.info "CRD is established" r.fields], some (.finished (.ok .established)))
      | .nameConflict reason =>
        ([], some (.finished (.error (.registration (.nameConflict reason)))))
      | .pending => ([Log.debug "CRD not established yet" r.fields], none)
  match stage? with
  | some stage => (entries, stage)
  | none =>
    let (more, stage) := r.wait now deadline
    (entries ++ more, stage)

/-- What a registration did: the moments at which the definition was created and read, its log, the
moment at which it ended, and its result. -/
structure Outcome where
  created : Nat
  readings : List Nat := []
  log : List Log.Entry := []
  finished : Nat
  result : Option (Except Failure Registration)

/-- The readings from the one numbered `index` on, each with the time that it takes. At most `fuel`
readings are made. -/
def poll (r : Registrar) (answers : Nat → Nat × Reading) (deadline : Nat) :
    Nat → Nat → Nat → Outcome → Outcome
  | 0, _, _, o => o
  | fuel + 1, index, now, o =>
    let (delay, reading) := answers index
    let (entries, stage) := r.read (now + delay) deadline reading
    let o := { o with readings := o.readings ++ [now], log := o.log ++ entries,
                      finished := now + delay }
    match stage with
    | .finished result => { o with result := some result }
    | .pausing _ wakeUp => poll r answers deadline fuel (index + 1) wakeUp o
    | .reading _ => o

/-- A whole registration that starts at `now`, with the time and the result of the creation and of
each reading. -/
def run (r : Registrar) (fuel now : Nat) (creation : Nat × Except Failure Unit)
    (answers : Nat → Nat × Reading) : Outcome :=
  let (entries, stage) := r.created (now + creation.1) creation.2
  let o : Outcome :=
    { created := now, log := entries, finished := now + creation.1, result := none }
  match stage with
  | .finished result => { o with result := some result }
  | .reading deadline => poll r answers deadline fuel 0 (now + creation.1) o
  | .pausing _ _ => o

end Registrar

end NatsFleet
