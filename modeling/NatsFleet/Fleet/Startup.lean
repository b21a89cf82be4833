import NatsFleet.Api.Client
import NatsFleet.Fleet.Dispatch

/-!
The start of an operator: the server is reached, the definition is registered, a watcher is started,
and its changes are dispatched. Requests pass through a carrier, so that other tasks run before a
reply comes back.
-/
namespace NatsFleet.Fleet

/-- The next request goes to the carrier. -/
def ask (f : Fleet) (request : Http.Request) : Fleet := { f with line := .asked request }

/-- The first request of an exchange goes to the carrier. -/
def request {α : Type} (f : Fleet) (e : Exchange α) : Fleet := (e.request?.map f.ask).getD f

def isTransportReady (f : Fleet) : Bool :=
  match f.line with
  | .asked _ => true
  | _ => false

/-- The carrier fetches the reply to the request on the line. -/
def carry (f : Fleet) : Fleet :=
  match f.line with
  | .asked request =>
    let (reply, server) := f.server.reply request
    { f with server := server, line := (reply.map .answered).getD .silent }
  | _ => f

def reply? (f : Fleet) : Option Http.Reply :=
  match f.line with
  | .answered reply => some reply
  | _ => none

/-- What an exchange of one request comes to when its reply has come; its log entries are
written. -/
def settle {α : Type} (f : Fleet) (e : Exchange α) : Option α × Fleet :=
  match f.reply? with
  | none => (none, f)
  | some reply =>
    let (result, entries) := (e.resume reply).settle
    (result, { f with line := .idle, log := f.log ++ entries })

def registrar (f : Fleet) : Registrar :=
  ⟨Schema.name, f.settings.pollInterval, f.settings.readyTimeout⟩

def noteAll (f : Fleet) (entries : List Log.Entry) : Fleet := { f with log := f.log ++ entries }

/-- The registration is over: a watcher starts, and its changes are dispatched. -/
def launch (f : Fleet) (self : Nat) (r : Registration) : Task × Fleet :=
  let f := if r = .timedOut then
      f.note (Log.warn "NatsCluster CRD is not established, reconciliation may fail until it is")
    else f
  let f := f.note (Log.info "Watching namespace"
    [("namespace", f.settings.watched.getD "all")])
  let f := f.spawn (.watch self { place := f.settings.watched } .unborn)
  let (mailbox, state, f) := f.pollDispatch {} .unborn
  (.dispatch mailbox state, f)

def register (f : Fleet) (self : Nat) : Registrar.Stage → Task × Fleet
  | .reading deadline =>
    (.startup self (.reading deadline), f.request (Api.readDefinition f.registrar.name))
  | .pausing deadline wakeUp => (.startup self (.pausing deadline wakeUp), f)
  | .finished (.error e) => (.startup self (.failed e), f)
  | .finished (.ok r) => f.launch self r

def pollStartup (f : Fleet) (self : Nat) (state : Startup) : Task × Fleet :=
  match state with
  | .unborn => (.startup self .connecting, f.request Api.connect)
  | .connecting =>
    match f.settle Api.connect with
    | (none, f) => (.startup self .connecting, f)
    | (some (.error e), f) => (.startup self (.failed e), f)
    | (some (.ok ()), f) => (.startup self .creating, f.request Api.createDefinition)
  | .creating =>
    match f.settle Api.createDefinition with
    | (none, f) => (.startup self .creating, f)
    | (some made, f) =>
      let (entries, stage) := f.registrar.created f.now made
      (f.noteAll entries).register self stage
  | .reading deadline =>
    match f.settle (Api.readDefinition f.registrar.name) with
    | (none, f) => (.startup self (.reading deadline), f)
    | (some reading, f) =>
      let (entries, stage) := f.registrar.read f.now deadline reading
      (f.noteAll entries).register self stage
  | .pausing deadline _ => f.register self (.reading deadline)
  | .failed e => (.startup self (.failed e), f)

def isStartupReady (f : Fleet) : Startup → Bool
  | .unborn => true
  | .connecting | .creating | .reading _ => f.reply?.isSome
  | .pausing _ wakeUp => wakeUp ≤ f.now
  | .failed _ => false

end NatsFleet.Fleet

namespace NatsFleet

/-- The moment at which the start goes on, as far as it is known. -/
def Startup.due? : Startup → Option Nat
  | .pausing _ wakeUp => some wakeUp
  | _ => none

def Startup.isFailed : Startup → Bool
  | .failed _ => true
  | _ => false

end NatsFleet
