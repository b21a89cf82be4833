import NatsFleet.Api.Answer
import NatsFleet.Api.Exchange
import NatsFleet.Api.Resource
import NatsFleet.Controller.Pass

/-!
What the requests of a controller and of the start-up come to at the API server.
-/
namespace NatsFleet.Api

/-- Sends a request and reads its reply. -/
def send {α : Type} (request : Prepared) (d : Json.Decoder α) :
    Exchange (Except RequestError α) :=
  match request with
  | .error e => .done (.error e)
  | .ok request => do
    let reply ← Exchange.send request
    return read d reply

/-- An object could not be created; a conflict means that it exists. -/
def createFailure (kind name : String) (e : RequestError) : Failure :=
  if e.hasCode 409 then .alreadyExists name
  else .objectCreate (kind ++ " " ++ name ++ ": " ++ e.message)

/-- The absence of an object is no error. -/
def orAbsent {α : Type} : Except RequestError α → Except RequestError (Option α)
  | .ok a => .ok (some a)
  | .error (.api s) => if s.reason = "NotFound" then .ok none else .error (.api s)
  | .error e => .error e

/-- A config map is written: one that exists is declared anew, and one that does not is created. -/
def applyConfigMap (place : String) (c : ConfigMap) : Exchange (Except RequestError Unit) := do
  let name := c.metadata.anyName
  match orAbsent (← send (get .configMaps (some place) name) configMapDecoder) with
  | .error e => return .error e
  | .ok none => send (create .configMaps (some place) c.toJson) configMapDecoder
  | .ok (some ()) => do
    Exchange.log (Log.debug "Replacing configuration bundle" [("configmap", name)])
    send (apply .configMaps (some place) name c.toJson) configMapDecoder

/-- What a request of a controller comes to in a namespace. -/
def perform (place : String) : Request → Exchange Reply
  | .createService s => do
    let made ← send (create .services (some place) s.toJson) serviceDecoder
    return (made.mapError (createFailure "service" s.metadata.anyName)).map fun _ => []
  | .applyConfigMap c => do
    return ((← applyConfigMap place c).mapError RequestError.toFailure).map fun _ => []
  | .createPod p => do
    let made ← send (create .pods (some place) p.toJson) podDecoder
    return (made.mapError (createFailure "pod" p.name)).map fun _ => []
  | .listPods selector => do
    let listed ← send (list .pods (some place) [("labelSelector", selector)])
      (listingDecoder podDecoder)
    return (listed.mapError RequestError.toFailure).map (·.items)
  | .deletePod name => do
    match ← send (delete .pods (some place) name) deletedPodDecoder with
    | .ok () => return .ok []
    | .error e => return if e.hasCode 404 then .ok [] else .error e.toFailure
  | .patchStatus name status => do
    let made ← send (patchStatus .clusters (some place) name status.toJson) Cluster.decoder
    return (made.mapError fun e => .kubeApi e.message).map fun _ => []

/-- Asks the server about itself; without a reply nothing can be done. -/
def connect : Exchange (Except Failure Unit) := do
  match ← send (prepare .get "/version") versionDecoder with
  | .error e => return .error (.connectivity e.message)
  | .ok v => do
    Exchange.log (Log.info "Connected to Kubernetes API server"
      [("version", v.release), ("platform", v.platform)])
    return .ok ()

/-- Creates the definition of the declared clusters. -/
def createDefinition : Exchange (Except Failure Unit) := do
  let made ← send (create .definitions none Schema.definition) definitionDecoder
  return (made.mapError RequestError.toFailure).map fun _ => ()

def readDefinition (name : String) : Exchange Reading := do
  return (orAbsent (← send (get .definitions none name) definitionDecoder)).mapError
    RequestError.toFailure

end NatsFleet.Api
