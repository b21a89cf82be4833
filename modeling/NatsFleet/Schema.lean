import NatsFleet.Cluster.Basic

/-!
The custom resource definition of declared clusters: their names, the columns that list them, and
the schema of spec and status.
-/
namespace NatsFleet.Schema

def group : String := "messaging.nats.io"

def version : String := "v1alpha2"

/-- The plural of the resource, as paths have it. -/
def plural : String := "natsclusters"

def name : String := plural ++ "." ++ group

def column (title type path : String) : Json :=
  .object [("jsonPath", .string path), ("name", .string title), ("type", .string type)]

/-- A property, with what is said about it. -/
def property (type description : String) (more : List (String × Json)) : Json :=
  .object ([("description", .string description), ("type", .string type)] ++ more)

def nullableText (description : String) : Json :=
  property "string" description [("nullable", .bool true)]

/-- A natural number of 32 bits with a default. -/
def natural (description : String) (default : Nat) : Json :=
  property "integer" description
    [("default", .nat default), ("format", .string "uint32"), ("minimum", .number (.real 0.0))]

def text (description default : String) : Json :=
  property "string" description [("default", .string default)]

def tls : Json :=
  property "object" "TLS configuration" [("nullable", .bool true), ("properties", .object [
    ("routesSecret", nullableText
      "Secret with `ca.pem`, `route.pem` and `route-key.pem` for the cluster port"),
    ("serverSecret", nullableText
      "Secret with `ca.pem`, `server.pem` and `server-key.pem` for the client port")])]

def flag : Json := .object [("default", .bool false), ("type", .string "boolean")]

def logging : Json :=
  property "object" "Server logging flags" [("nullable", .bool true),
    ("properties", .object [("debug", flag), ("trace", flag)])]

def spec : Json :=
  property "object" "NatsCluster is the Schema for the natsclusters API" [("properties", .object [
    ("serverConfig", logging),
    ("serverImage", text "Container image repository, tagged with `version`"
      ({} : ClusterSpec).serverImage),
    ("size", natural "Number of NATS servers in the cluster" ({} : ClusterSpec).size.toNat),
    ("tls", tls),
    ("version", text "NATS server release the cluster runs" ({} : ClusterSpec).version)])]

def condition : Json :=
  property "object" "Condition of the cluster" [
    ("properties", .object [
      ("lastTransitionTime", nullableText "Last time the condition transitioned"),
      ("message", nullableText "Human-readable message"),
      ("reason", nullableText "Reason for the condition"),
      ("status", property "string" "Status of the condition (True, False, Unknown)" []),
      ("type", property "string" "Type of condition" [])]),
    ("required", .strings ["status", "type"])]

def status : Json :=
  property "object" "Status of the NatsCluster" [("nullable", .bool true), ("properties", .object [
    ("conditions", property "array" "Conditions representing cluster state"
      [("default", .array []), ("items", condition)]),
    ("lastUpdated", nullableText "Last update timestamp"),
    ("phase", property "string" "Current phase of the cluster"
      [("default", Phase.toJson ({} : ClusterStatus).phase),
        ("enum", .strings (Phase.named.map (·.1)))]),
    ("readySize", natural "Number of pods reporting Ready" 0),
    ("size", natural "Number of live server pods" 0),
    ("version", text "Server version of the desired spec" "")])]

def definition : Json :=
  .object [("apiVersion", .string "apiextensions.k8s.io/v1"),
    ("kind", .string "CustomResourceDefinition"),
    ("metadata", .object [("name", .string name)]),
    ("spec", .object [
      ("group", .string group),
      ("names", .object [("categories", .array []), ("kind", .string Cluster.kind),
        ("plural", .string plural), ("shortNames", .strings ["nats"]),
        ("singular", .string "natscluster")]),
      ("scope", .string "Namespaced"),
      ("versions", .array [.object [
        ("additionalPrinterColumns", .array [
          column "Size" "integer" ".spec.size",
          column "Ready" "integer" ".status.readySize",
          column "Version" "string" ".spec.version",
          column "Phase" "string" ".status.phase",
          column "Age" "date" ".metadata.creationTimestamp"]),
        ("name", .string version),
        ("schema", .object [("openAPIV3Schema", .object [
          ("description", .string
            "Auto-generated derived type for NatsClusterSpec via `CustomResource`"),
          ("properties", .object [("spec", spec), ("status", status)]),
          ("required", .strings ["spec"]),
          ("title", .string Cluster.kind),
          ("type", .string "object")])]),
        ("served", .bool true),
        ("storage", .bool true),
        ("subresources", .object [("status", .object [])])]])])]

end NatsFleet.Schema
