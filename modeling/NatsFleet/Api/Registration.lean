import NatsFleet.Api.Client

/-!
The registration of the declared clusters' definition at a server whose replies are laid down.
-/
namespace NatsFleet.Script

/-- Reads the definition until the registration is finished, from `now` on: the moment and the
result of the end. A registration that waits for a reply for ever, or beyond `limit`, has none. At
most `fuel` readings are made. -/
def poll (r : Registrar) (limit deadline : Nat) :
    Nat → Nat → List Log.Entry → Script →
      Nat × Option (Except Failure Registration) × List Log.Entry × Script
  | 0, _, log, s => (limit, none, log, s)
  | fuel + 1, now, log, s =>
    if limit < now then (limit, none, log, s)
    else match s.hold log (Api.readDefinition r.name) with
      | (none, log, s) => (limit, none, log, s)
      | (some reading, log, s) =>
        let (entries, stage) := r.read now deadline reading
        match stage with
        | .finished result => (now, some result, log ++ entries, s)
        | .pausing _ wakeUp => poll r limit deadline fuel wakeUp (log ++ entries) s
        | .reading _ => (limit, none, log ++ entries, s)

/-- A whole registration that starts at the moment zero. -/
def register (s : Script) (r : Registrar) (limit : Nat) :
    Nat × Option (Except Failure Registration) × List Log.Entry × Script :=
  match s.hold [] Api.createDefinition with
  | (none, log, s) => (limit, none, log, s)
  | (some made, log, s) =>
    let (entries, stage) := r.created 0 made
    match stage with
    | .finished result => (0, some result, log ++ entries, s)
    | .reading deadline => poll r limit deadline (s.replies.length + 1) 0 (log ++ entries) s
    | .pausing _ _ => (limit, none, log ++ entries, s)

end NatsFleet.Script
