import NatsFleet.Http.Basic
import NatsFleet.Log

/-!
Talking to the API server: requests one after the other, each of which may depend on the replies so
far. An exchange can be held with a server whose replies are laid down beforehand.
-/
namespace NatsFleet

/-- Requests one after the other, with log entries between them, and what they come to. -/
inductive Exchange (α : Type) where
  | done (result : α)
  | note (entry : Log.Entry) (next : Exchange α)
  | ask (request : Http.Request) (next : Http.Reply → Exchange α)

namespace Exchange

def bind {α β : Type} (e : Exchange α) (f : α → Exchange β) : Exchange β :=
  match e with
  | .done a => f a
  | .note entry next => .note entry (next.bind f)
  | .ask request next => .ask request fun reply => (next reply).bind f

instance : Monad Exchange where
  pure := .done
  bind := bind

def log (entry : Log.Entry) : Exchange Unit := .note entry (.done ())

def send (request : Http.Request) : Exchange Http.Reply := .ask request .done

def request? {α : Type} : Exchange α → Option Http.Request
  | .done _ => none
  | .note _ next => next.request?
  | .ask request _ => some request

/-- What follows once the first request has its reply. -/
def resume {α : Type} (reply : Http.Reply) : Exchange α → Exchange α
  | .done a => .done a
  | .note entry next => .note entry (next.resume reply)
  | .ask _ next => next reply

/-- The log entries up to the next request, and the result if there is no further one. -/
def settle {α : Type} : Exchange α → Option α × List Log.Entry
  | .done a => (some a, [])
  | .note entry next => let (a, entries) := next.settle; (a, entry :: entries)
  | .ask _ _ => (none, [])

/-- Holds an exchange with a server that answers every request at once: what it comes to, and its
log entries. -/
def converse {α : Type} (answer : Http.Request → Http.Reply) : Exchange α → α × List Log.Entry
  | .done a => (a, [])
  | .note entry next => let (a, entries) := next.converse answer; (a, entry :: entries)
  | .ask request next => (next (answer request)).converse answer

end Exchange

/-- A server whose replies are laid down beforehand, and the requests that it got. A request that
gets no reply waits for ever, and so does one that comes after the last reply. -/
structure Script where
  replies : List (Option Http.Reply) := []
  requests : List Http.Request := []

namespace Script

def reply (s : Script) (request : Http.Request) : Option Http.Reply × Script :=
  let s := { s with requests := s.requests ++ [request] }
  match s.replies with
  | [] => (none, s)
  | next :: rest => (next, { s with replies := rest })

/-- Holds an exchange: what it comes to, unless it waits for ever, and its log entries. -/
def hold {α : Type} (s : Script) (log : List Log.Entry) :
    Exchange α → Option α × List Log.Entry × Script
  | .done a => (some a, log, s)
  | .note entry next => s.hold (log ++ [entry]) next
  | .ask request next =>
    match s.reply request with
    | (none, s) => (none, log, s)
    | (some reply, s) => s.hold log (next reply)

end Script

end NatsFleet
