import NatsFleet.Api.Answer

/-!
The lines of the answer to a watch: each tells of one object that was written or deleted, of a
version that was reached, or of an error.
-/
namespace NatsFleet.Watch

/-- A line of the answer to a watch. -/
inductive Notice where
  | written (c : Cluster)
  | deleted (c : Cluster)
  -- The changes up to this version have been told.
  | reached (version : String)
  | failed (status : ApiStatus)

namespace Notice

/-- The kinds of notices by name, each with the reader of its content. -/
def kinds : List (String × Json.Decoder Notice) := [
  ("ADDED", fun origin document => (Cluster.decoder origin document).map .written),
  ("MODIFIED", fun origin document => (Cluster.decoder origin document).map .written),
  ("DELETED", fun origin document => (Cluster.decoder origin document).map .deleted),
  ("BOOKMARK", fun origin document => (Json.Decoder.flat "Bookmark" [
    .mandatory "metadata" (.record "BookmarkMeta" [
      .mandatory "resourceVersion" .string fun _ x => x,
      .optional "annotations" (.map .string) fun s _ => s] "") fun _ x => x,
    .mandatory "apiVersion" (.anything 1) fun s _ => s,
    .mandatory "kind" (.anything 1) fun s _ => s] "" origin document).map .reached),
  ("ERROR", fun origin document => (Api.statusDecoder origin document).map .failed)]

def kindDecoder : Json.Decoder (Json.Decoder Notice)
  | _, .string s => do Json.Decoder.variantNamed kinds (← Json.orFault s)
  | _, document => document.mismatch "variant identifier"

/-- What has been read of a notice: its kind and its content. -/
structure Parts where
  kind : Option (Json.Decoder Notice) := none
  content : Json := .null

def decoder : Json.Decoder Notice
  | origin, .object fields ending => do
    let parts ← Json.Decoder.ofFields true [
      .mandatory "type" kindDecoder fun p x => { p with kind := some x },
      .mandatory "object" (.anything 1) fun p x => { p with content := x }]
      origin ending fields [] ({} : Parts)
    match parts.kind with
    | some d => d.readValue parts.content
    | none => Json.complain (.missingField "type")
  | _, document => document.mismatch "adjacently tagged enum WatchEvent"

/-- Reads a line; one that ends too early is left out, and one that is an error answer counts as an
error. -/
def ofLine (line : String) : Option (Except RequestError Notice) :=
  match decoder.readText line with
  | .ok n => some (.ok n)
  | .error (.fault (.truncated _)) => none
  | .error e =>
    match Api.statusDecoder.readText line with
    | .ok status => some (.error (.api status))
    | .error _ => some (.error (.answer e.message))

def lines (body : String) : List String :=
  (body.splitOn "\n").map fun line => (line.dropSuffix "\r").toString

def ofBody (body : String) : List (Except RequestError Notice) := (lines body).filterMap ofLine

end Notice

end NatsFleet.Watch
