import NatsFleet.Text.Quoted

/-!
What can go wrong, by cause, and the words for it.
-/
namespace NatsFleet

/-- Why a custom resource definition could not be registered. -/
inductive RegistrationFailure where
  -- The API server refuses its names.
  | nameConflict (reason : String)
  -- It could not be created.
  | createFailed (reason : String)
  deriving DecidableEq

inductive Failure where
  -- The API server cannot be reached.
  | connectivity (reason : String)
  | registration (cause : RegistrationFailure)
  -- An object exists already, which idempotent creates count as success.
  | alreadyExists (what : String)
  | objectCreate (reason : String)
  -- A controller is registered for the cluster already.
  | duplicateRegistration (key : String)
  | kubeApi (reason : String)
  | configuration (reason : String)
  | serialization (reason : String)
  -- The expected end of a requested shutdown.
  | shutdown
  deriving DecidableEq

namespace RegistrationFailure

def message : RegistrationFailure → String
  | .nameConflict reason => "name conflict: " ++ reason
  | .createFailed reason => "create failed: " ++ reason

end RegistrationFailure

namespace Failure

def message : Failure → String
  | .connectivity reason => "Cannot reach Kubernetes API server: " ++ reason
  | .registration cause => "CRD registration error: " ++ cause.message
  | .alreadyExists what => "Already exists: " ++ what
  | .objectCreate reason => "Object create error: " ++ reason
  | .duplicateRegistration key => "Controller already registered for " ++ key
  | .kubeApi reason => "Kubernetes API error: " ++ reason
  | .configuration reason => "Configuration error: " ++ reason
  | .serialization reason => "Serialization error: " ++ reason
  | .shutdown => "operator shut down"

def isAlreadyExists : Failure → Bool
  | .alreadyExists _ => true
  | _ => false

/-- The expected end of a requested shutdown. -/
def isShutdown : Failure → Bool
  | .shutdown => true
  | _ => false

end Failure

/-- The body of an error answer of the API server. -/
structure ApiStatus where
  status : String := ""
  message : String := ""
  reason : String := ""
  code : Nat := 0
  deriving DecidableEq

/-- What can go wrong with a request to the API server. -/
inductive RequestError where
  -- The server answered with an error.
  | api (status : ApiStatus)
  -- The answer did not arrive.
  | service (reason : String)
  -- The answer is not what was asked for.
  | answer (reason : String)
  -- No line of the answer ends.
  | endlessLine
  -- The request could not be made.
  | request (reason : String)
  deriving DecidableEq

namespace RequestError

/-- The words for an error of a request. -/
def message : RequestError → String
  | .api s => "ApiError: " ++ s.message ++ ": " ++ s.reason ++ " (ErrorResponse \x7b status: " ++
      Text.quoted s.status ++ ", message: " ++ Text.quoted s.message ++ ", reason: " ++
      Text.quoted s.reason ++ ", code: " ++ toString s.code ++ " \x7d)"
  | .service reason => "ServiceError: " ++ reason
  | .answer reason => "Error deserializing response: " ++ reason
  | .endlessLine => "Error finding newline character"
  | .request reason => "Failed to build request: " ++ reason

def hasCode (e : RequestError) (code : Nat) : Bool :=
  match e with
  | .api s => s.code == code
  | _ => false

/-- A failed request as a failure; a conflict means that the object exists. -/
def toFailure (e : RequestError) : Failure :=
  match e with
  | .api s => if s.code = 409 then .alreadyExists s.message else .kubeApi e.message
  | _ => .kubeApi e.message

end RequestError

end NatsFleet
