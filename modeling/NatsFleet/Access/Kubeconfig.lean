import NatsFleet.Json.Decode
import NatsFleet.Yaml.Reader

/-!
Files that say how clusters are reached: named clusters, users and contexts, a context being a
cluster with a user. Several such files, or several documents of one file, count as one; what an
earlier one says about a name stays.
-/
namespace NatsFleet.Access

/-- What a file holds, or why it cannot be read. -/
abbrev Files := String → Except String String

/-- A name, and what stands for it. -/
structure Named (α : Type) where
  name : String := ""
  content : Option α := none

structure Endpoint where
  server : Option String := none
  -- The file with the certificates that are trusted.
  trusted : Option String := none
  -- The certificates that are trusted, in base 64.
  trustedData : Option String := none
  proxy : Option String := none

/-- How a user is known to a cluster. -/
structure Credentials where
  username : Option String := none
  password : Option String := none
  token : Option String := none
  tokenFile : Option String := none

structure Context where
  cluster : String := ""
  user : Option String := none

/-- The clusters that can be reached, and the context in use. -/
structure Kubeconfig where
  kind : Option String := none
  release : Option String := none
  clusters : List (Named Endpoint) := []
  users : List (Named Credentials) := []
  contexts : List (Named Context) := []
  current : Option String := none

namespace Kubeconfig

def text : Json.Decoder String
  | _, .null => Json.complain (.wrongType .nothing "a string")
  | origin, document => Json.Decoder.string origin document

/-- Null counts as a record without fields. -/
def orBlank {α : Type} (d : Json.Decoder α) : Json.Decoder α
  | origin, .null => d origin (.object [] .closed)
  | origin, document => d origin document

def orNone {α : Type} (d : Json.Decoder α) : Json.Decoder (List α) := fun origin document =>
  (Json.Decoder.option (.list d) origin document).map (·.getD [])

/-- A field that may be absent and is not needed. -/
def spare {σ α : Type} (name : String) (d : Json.Decoder α) : Json.Slot σ :=
  .optional name (.option d) fun s _ => s

/-- A field with a text that may be absent. -/
def optionalText {σ : Type} (name : String) (put : σ → Option String → σ) : Json.Slot σ :=
  .optional name (.option .string) put

def namedDecoder {α : Type} (title field : String) (d : Json.Decoder α) : Json.Decoder (Named α) :=
  orBlank (.flat title [
    .mandatory "name" text fun n s => { n with name := s },
    .optional field (.option d) fun n a => { n with content := a }] {})

/-- A part that only other programs understand. -/
def extension : Json.Decoder Unit :=
  orBlank (.flat "NamedExtension" [
    .mandatory "name" text fun s _ => s,
    .mandatory "extension" (.anything 0) fun s _ => s] ())

def preferences : Json.Decoder Unit :=
  orBlank (.flat "Preferences" [spare "colors" .bool, spare "extensions" (.list extension)] ())

def endpoint : Json.Decoder Endpoint :=
  orBlank (.flat "Cluster" [
    optionalText "server" fun e s => { e with server := s },
    spare "insecure-skip-tls-verify" .bool,
    optionalText "certificate-authority" fun e s => { e with trusted := s },
    optionalText "certificate-authority-data" fun e s => { e with trustedData := s },
    optionalText "proxy-url" fun e s => { e with proxy := s },
    spare "disable-compression" .bool,
    spare "tls-server-name" .string,
    spare "extensions" (.list extension)] {})

def credentials : Json.Decoder Credentials :=
  orBlank (.flat "AuthInfo" [
    optionalText "username" fun c s => { c with username := s },
    optionalText "password" fun c s => { c with password := s },
    optionalText "token" fun c s => { c with token := s },
    optionalText "tokenFile" fun c s => { c with tokenFile := s },
    spare "client-certificate" .string,
    spare "client-certificate-data" .string,
    spare "client-key" .string,
    spare "client-key-data" .string,
    spare "as" .string,
    spare "as-groups" (.list text)] {})

def context : Json.Decoder Context :=
  orBlank (.flat "Context" [
    .mandatory "cluster" text fun c s => { c with cluster := s },
    optionalText "user" fun c s => { c with user := s },
    spare "namespace" .string,
    spare "extensions" (.list extension)] {})

def decoder : Json.Decoder Kubeconfig :=
  orBlank (.flat "Kubeconfig" [
    spare "preferences" preferences,
    .optional "clusters" (orNone (namedDecoder "NamedCluster" "cluster" endpoint))
      fun k l => { k with clusters := l },
    .optional "users" (orNone (namedDecoder "NamedAuthInfo" "user" credentials))
      fun k l => { k with users := l },
    .optional "contexts" (orNone (namedDecoder "NamedContext" "context" context))
      fun k l => { k with contexts := l },
    optionalText "current-context" fun k s => { k with current := s },
    spare "extensions" (.list extension),
    optionalText "kind" fun k s => { k with kind := s },
    optionalText "apiVersion" fun k s => { k with release := s }] {})

end Kubeconfig

/-- Why a file does not say how a cluster is reached. -/
inductive FileFlaw where
  | unreadable (path reason : String)
  | noYaml (problem : Yaml.Problem)
  | badStructure (error : Json.DecodeError)
  | kindMismatch
  | releaseMismatch

def FileFlaw.message : FileFlaw → String
  | .unreadable path reason =>
    "failed to read kubeconfig from '" ++ Text.quoted path ++ "': " ++ reason
  | .noYaml p => "failed to parse kubeconfig YAML: " ++ p.message
  | .badStructure e => "the structure of the parsed kubeconfig is invalid: " ++ e.message
  | .kindMismatch => "kubeconfigs with mismatching kind cannot be merged"
  | .releaseMismatch => "kubeconfigs with mismatching api version cannot be merged"

def FileFlaw.causes : FileFlaw → List String
  | .unreadable _ reason => [reason]
  | .noYaml p => [p.message]
  | .badStructure e => [e.message]
  | .kindMismatch | .releaseMismatch => []

/-- The path of the directory of a file. -/
def directory (path : String) : String :=
  let trimmed := path.toList.reverse.dropWhile (· = '/')
  let parent := trimmed.dropWhile (· ≠ '/')
  let kept := parent.dropWhile (· = '/')
  if kept.isEmpty && !parent.isEmpty then "/" else String.ofList kept.reverse

/-- A path, which is meant from a directory unless it starts at the root. -/
def pathFrom (directory path : String) : String :=
  if path.startsWith "/" || directory.isEmpty then path
  else if directory.endsWith "/" then directory ++ path
  else directory ++ "/" ++ path

namespace Kubeconfig

/-- The files that are named mean those in a directory. -/
def within (directory : String) (k : Kubeconfig) : Kubeconfig :=
  let moved (path : Option String) := path.map (pathFrom directory)
  { k with
    clusters := k.clusters.map fun n =>
      { n with content := n.content.map fun e => { e with trusted := moved e.trusted } }
    users := k.users.map fun n =>
      { n with content := n.content.map fun c => { c with tokenFile := moved c.tokenFile } } }

def addNew {α : Type} (known more : List (Named α)) : List (Named α) :=
  known ++ more.filter fun n => known.all fun m => m.name ≠ n.name

/-- Two texts that are both there differ. -/
def clash (a b : Option String) : Bool := a.any fun s => b.any (s ≠ ·)

/-- What is said first, together with what is said later. -/
def merge (k next : Kubeconfig) : Except FileFlaw Kubeconfig :=
  if clash k.kind next.kind then .error .kindMismatch
  else if clash k.release next.release then .error .releaseMismatch
  else .ok {
    kind := k.kind.or next.kind
    release := k.release.or next.release
    clusters := addNew k.clusters next.clusters
    users := addNew k.users next.users
    contexts := addNew k.contexts next.contexts
    current := k.current.or next.current }

/-- The documents of a text; the first problem ends them. -/
def ofText (text : String) : Except FileFlaw (List Kubeconfig) := do
  let (documents, problem) := Yaml.documents text
  let read ← documents.mapM fun j => (decoder.readValue j).mapError .badStructure
  match problem with
  | some p => .error (.noYaml p)
  | none => .ok read

/-- A text without a mark of its byte order in front. -/
def unmarked (text : String) : String :=
  match text.toList with
  | '\ufeff' :: rest => String.ofList rest
  | _ => text

def read (files : Files) (path : String) : Except FileFlaw Kubeconfig := do
  let text ← (files path).mapError (.unreadable path)
  match (← ofText (unmarked text)).map (within (directory path)) with
  | [] => .ok {}
  | first :: rest => rest.foldlM merge first

def readAll (files : Files) (paths : List String) : Except FileFlaw Kubeconfig :=
  paths.foldlM (fun k path => do k.merge (← read files path)) {}

end Kubeconfig

end NatsFleet.Access
