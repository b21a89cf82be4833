import NatsFleet.Cluster.Basic
import NatsFleet.Failure
import NatsFleet.Http.Basic
import NatsFleet.Http.Status
import NatsFleet.Object.Pod
import NatsFleet.Registrar
import NatsFleet.Schema

/-!
What the API server's replies say: errors, objects and lists of objects.
-/
namespace NatsFleet.Api

/-- Reads the body of an error answer. -/
def statusDecoder : Json.Decoder ApiStatus := .record "ErrorResponse" [
  .mandatory "status" .string fun s x => { s with status := x },
  .optional "message" .string fun s x => { s with message := x },
  .optional "reason" .string fun s x => { s with reason := x },
  .mandatory "code" (.between 0 65535 "u16") fun s x => { s with code := x.toNat }] {}

/-- What an error answer says. The code in its body decides; a body that is none shows as it is. -/
def errorOf (code : Nat) (body : String) : ApiStatus :=
  match statusDecoder.readText body with
  | .ok status => status
  | .error _ => ⟨Http.statusLine code, Text.quoted body, "Failed to parse error data", code⟩

def bodyOf : Http.Reply → Except RequestError String
  | .answer code body => if Http.isError code then .error (.api (errorOf code body)) else .ok body
  | .broken reason => .error (.service reason)

/-- Reads a text that is an answer. -/
def readBody {α : Type} (d : Json.Decoder α) (body : String) : Except RequestError α :=
  (d.readText body).mapError fun e => .answer e.message

def read {α : Type} (d : Json.Decoder α) (reply : Http.Reply) : Except RequestError α := do
  readBody d (← bodyOf reply)

/-- A field that says what it must say. -/
def fixed {σ : Type} (name text : String) : Json.Slot σ :=
  .optional name (.exactly text) fun s _ => s

/-- A field that holds an object, of which nothing is read. -/
def part {σ : Type} (name title : String) : Json.Slot σ :=
  .optional name (.option (.object title [] ())) fun s _ => s

/-- The fields by which an object tells its kind. -/
def kindOf {σ : Type} (apiVersion kind : String) : List (Json.Slot σ) :=
  [fixed "apiVersion" apiVersion, fixed "kind" kind]

/-- The field with the metadata of an object, of which nothing is kept. -/
def anyMetadata : Json.Slot Unit :=
  .optional "metadata" (.option ObjectMeta.decoder) fun s _ => s

/-- Reads a service, of which nothing is kept. -/
def serviceDecoder : Json.Decoder Unit := .object "Service"
  (kindOf "v1" "Service" ++
    [anyMetadata, part "spec" "ServiceSpec", part "status" "ServiceStatus"]) ()

/-- Reads a config map, of which nothing is kept. -/
def configMapDecoder : Json.Decoder Unit := .object "ConfigMap"
  (kindOf "v1" "ConfigMap" ++ [
    .optional "binaryData" (.option (.map .string)) fun s _ => s,
    .optional "data" (.option (.map .string)) fun s _ => s,
    .optional "immutable" (.option .bool) fun s _ => s,
    anyMetadata]) ()

def podConditionDecoder : Json.Decoder PodCondition := .object "PodCondition" [
  .optional "status" .orEmpty fun c x => { c with status := x },
  .optional "type" .orEmpty fun c x => { c with type := x }] {}

def podStatusDecoder : Json.Decoder PodStatus := .object "PodStatus" [
  .optional "conditions" (.option (.list podConditionDecoder))
    fun s x => { s with conditions := x },
  .optional "phase" (.option .string) fun s x => { s with phase := x }] {}

/-- Reads a pod, except for what it runs. -/
def podDecoder : Json.Decoder Pod := .object "Pod"
  (kindOf "v1" "Pod" ++ [
    .optional "metadata" (.option ObjectMeta.decoder) fun p x => { p with metadata := x.getD {} },
    part "spec" "PodSpec",
    .optional "status" (.option podStatusDecoder) fun p x => { p with status := x }]) {}

/-- Reads a deleted pod, or what the server says instead. -/
def deletedPodDecoder : Json.Decoder Unit := fun origin document => do
  let value ← Json.orFault (document.value Json.depthLimit)
  match value.get? "kind" with
  | some (.string "Status") =>
    Json.Decoder.record "Status" [
      .optional "status" (.option (.variant [("Success", ()), ("Failure", ())])) fun s _ => s,
      .optional "code" (.between 0 65535 "u16") fun s _ => s,
      .optional "message" .string fun s _ => s,
      .optional "reason" .string fun s _ => s,
      .optional "details" (.anything 1) fun s _ => s] () origin document
  | _ => (podDecoder origin document).map fun _ => ()

def definitionConditionDecoder : Json.Decoder DefinitionCondition :=
  .object "CustomResourceDefinitionCondition" [
    .optional "reason" (.option .string) fun c x => { c with reason := x },
    .optional "status" .orEmpty fun c x => { c with status := x },
    .optional "type" .orEmpty fun c x => { c with type := x }] {}

/-- Reads a definition: its conditions, if it has a status. -/
def definitionDecoder : Json.Decoder (Option (List DefinitionCondition)) :=
  .object "CustomResourceDefinition"
    (kindOf "apiextensions.k8s.io/v1" "CustomResourceDefinition" ++ [
      .optional "metadata" (.option ObjectMeta.decoder) fun s _ => s,
      part "spec" "CustomResourceDefinitionSpec",
      .optional "status" (.option (.object "CustomResourceDefinitionStatus" [
        .optional "conditions" (.option (.list definitionConditionDecoder)) fun _ x => x]
          (none : Option (List DefinitionCondition)))) fun _ x => x.map (·.getD [])]) none

structure Version where
  release : String := ""
  platform : String := ""

/-- Reads what the server says about itself. -/
def versionDecoder : Json.Decoder Version := .object "Info"
  (["buildDate", "compiler", "gitCommit", "gitTreeState", "goVersion", "major", "minor"].map
      (fun name => .optional name (.option .string) fun v _ => v) ++ [
    .optional "gitVersion" .orEmpty fun v x => { v with release := x },
    .optional "platform" .orEmpty fun v x => { v with platform := x }]) {}

/-- A list of objects, the version at which it was made, and where its next page starts. -/
structure Listing (α : Type) where
  items : List α := []
  version : Option String := none
  next : Option String := none

def listingDecoder {α : Type} (d : Json.Decoder α) : Json.Decoder (Listing α) :=
  .flat "ObjectList" [
    .optional "metadata" (.object "ListMeta" [
      .optional "continue" (.option .string) fun l x => { l with next := x },
      .optional "remainingItemCount" (.option .integer64) fun l _ => l,
      .optional "resourceVersion" (.option .string) fun l x => { l with version := x },
      .optional "selfLink" (.option .string) fun l _ => l] ({} : Listing α))
      fun l x => { x with items := l.items },
    .mandatory "items" (.option (.list d)) fun l x => { l with items := x.getD [] }] {}

end NatsFleet.Api
