import NatsFleet.Access.Inference
import NatsFleet.Api.Client
import NatsFleet.Cli.Arguments
import NatsFleet.Cli.Filter
import NatsFleet.Fleet.Basic

/-!
What a call of the program comes to: it reads its arguments, finds the way to the API server, and
asks whether the server is there. The first thing that goes wrong ends the call.
-/
namespace NatsFleet.Cli

structure Surroundings where
  environment : Access.Environment
  files : Access.Files
  -- What servers reply.
  network : Http.Address → Http.Request → Http.Reply

/-- What a call of the program comes to. -/
structure Outcome where
  status : Nat
  output : String := ""
  complaint : String := ""
  -- The log entries that are shown, with their targets.
  log : List (String × Log.Entry) := []
  -- The operator that goes on running, if nothing went wrong.
  operator : Option Settings := none

inductive Defect where
  | failure (f : Failure)
  | noRoute (flaw : Access.InferenceFlaw)
  | obstacle (o : Access.Obstacle)

namespace Defect

def message : Defect → String
  | .failure f => f.message
  | .noRoute flaw => flaw.message
  | .obstacle o => o.message

def causes : Defect → List String
  | .failure _ => []
  | .noRoute flaw => flaw.causes
  | .obstacle o => o.causes

/-- A text with blanks before each line after the first. -/
def indented (width : Nat) (text : String) : String :=
  text.replace "\n" ("\n" ++ String.ofList (List.replicate width ' '))

def numbered (cause : String × Nat) : String :=
  let number := toString cause.2
  String.ofList (List.replicate (5 - number.length) ' ') ++ number ++ ": " ++ indented 7 cause.1

/-- A list of causes; one that stands alone has no number. -/
def causesText : List String → String
  | [] => ""
  | [cause] => "\n\nCaused by:\n    " ++ indented 4 cause
  | causes => "\n\nCaused by:\n" ++ "\n".intercalate (causes.zipIdx.map numbered)

def complaint (d : Defect) : String := "Error: " ++ d.message ++ causesText d.causes ++ "\n"

end Defect

def Arguments.settings (a : Arguments) : Except Failure Settings :=
  if a.interval = 0 then .error (.configuration "reconcile interval must be at least one second")
  else .ok {
    watched := if a.place.isEmpty then none else some a.place
    interval := a.interval * 1000 }

/-- The way to the API server: the one that the named file shows, or the usual one. -/
def Arguments.route (a : Arguments) (s : Surroundings) : Except Defect Access.Route :=
  match a.kubeconfig with
  | none => (Access.infer s.environment s.files).mapError .noRoute
  | some path => do
    let k ← (Access.Kubeconfig.read s.files path).mapError fun flaw =>
      .failure (.configuration (path ++ ": " ++ flaw.message))
    (k.route s.files s.environment).mapError fun flaw => .failure (.configuration flaw.message)

/-- What comes back from an address. A request needs a scheme and an authority to go to. -/
def Surroundings.reach (s : Surroundings) (a : Http.Address) (r : Http.Request) : Http.Reply :=
  match a.scheme, a.authority with
  | some _, some _ => s.network a r
  | none, some _ => .broken "buffer's worker closed unexpectedly"
  | _, none => .broken "client error (UserAbsoluteUriRequired)"

/-- The target of the entries about the call. -/
def target : String := "nats_operator"

/-- The target of the entries about requests. -/
def requestTarget : String := target ++ "::runtime"

/-- The filter of the log: what the environment asks for, or else what the arguments do. -/
def Arguments.filter (a : Arguments) (environment : Access.Environment) : Filter :=
  let level : Log.Level := if a.trace then .trace else if a.debug then .debug else .info
  ((environment "RUST_LOG").bind Filter.ofText?).getD [{ threshold := some level }]

/-- What is needed before the first request. -/
def Arguments.prepare (a : Arguments) (s : Surroundings) :
    Except Defect (Settings × Access.Route) := do
  let settings ← a.settings.mapError .failure
  let route ← a.route s
  match route.obstacle? s.files with
  | some o => .error (.obstacle o)
  | none => return (settings, route)

/-- What it comes to that the operator is to run, with all log entries. -/
def Arguments.operate (a : Arguments) (s : Surroundings) : Outcome :=
  let begun := (target, Log.info "Starting NATS Kubernetes Operator")
  match a.prepare s with
  | .error d => { status := 1, complaint := d.complaint, log := [begun] }
  | .ok (settings, route) =>
    let (connected, entries) := Api.connect.converse (s.reach route.server)
    let log := begun :: entries.map (requestTarget, ·)
    match connected with
    | .ok () => { status := 0, log := log, operator := some settings }
    | .error f =>
      { status := 1, complaint := (Defect.failure f).complaint,
        log := log ++ [(target, Log.error ("Operator failed: " ++ f.message))] }

/-- What a call with these arguments comes to. -/
def run (arguments : List String) (s : Surroundings) : Outcome :=
  match read arguments s.environment with
  | .error r => { status := 2, complaint := r.message }
  | .ok .help => { status := 0, output := helpText s.environment }
  | .ok .version => { status := 0, output := versionText }
  | .ok (.run a) =>
    let outcome := a.operate s
    let filter := a.filter s.environment
    { outcome with log := outcome.log.filter fun e => filter.shows e.1 e.2.level }

end NatsFleet.Cli
