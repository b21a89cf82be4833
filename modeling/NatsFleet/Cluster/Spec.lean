import NatsFleet.Json.Decode

/-!
The declared state of a cluster of NATS servers.
-/
namespace NatsFleet

/-- The names of the secrets with the certificates of the client and the route listeners. -/
structure TlsSecrets where
  server : Option String := none
  routes : Option String := none
  deriving DecidableEq

structure LogFlags where
  debug : Bool := false
  trace : Bool := false
  deriving DecidableEq

/-- What a cluster is declared to be. -/
structure ClusterSpec where
  -- The number of servers.
  size : UInt32 := 1
  -- The server release.
  version : String := "2.10.22"
  -- The image repository, tagged with the version.
  serverImage : String := "nats"
  tls : Option TlsSecrets := none
  logging : Option LogFlags := none
  deriving DecidableEq

namespace TlsSecrets

def toJson (t : TlsSecrets) : Json :=
  .object [("serverSecret", .ofOption .string t.server),
    ("routesSecret", .ofOption .string t.routes)]

def slots : List (Json.Slot TlsSecrets) := [
  .optional "serverSecret" (.option .string) fun t x => { t with server := x },
  .optional "routesSecret" (.option .string) fun t x => { t with routes := x }]

def decoder : Json.Decoder TlsSecrets := .record "TlsConfig" slots {}

end TlsSecrets

namespace LogFlags

def toJson (f : LogFlags) : Json :=
  .object [("debug", .bool f.debug), ("trace", .bool f.trace)]

def slots : List (Json.Slot LogFlags) := [
  .optional "debug" .bool fun f x => { f with debug := x },
  .optional "trace" .bool fun f x => { f with trace := x }]

def decoder : Json.Decoder LogFlags := .record "ServerConfigSpec" slots {}

end LogFlags

namespace ClusterSpec

/-- The secret of the client listener, if clients are served over TLS. -/
def serverSecret (s : ClusterSpec) : Option String := s.tls.bind (·.server)

/-- The secret of the route listener, if routes run over TLS. -/
def routesSecret (s : ClusterSpec) : Option String := s.tls.bind (·.routes)

def image (s : ClusterSpec) : String := s.serverImage ++ ":" ++ s.version

def toJson (s : ClusterSpec) : Json :=
  .object [("size", .nat s.size.toNat), ("version", .string s.version),
    ("serverImage", .string s.serverImage), ("tls", .ofOption TlsSecrets.toJson s.tls),
    ("serverConfig", .ofOption LogFlags.toJson s.logging)]

def slots : List (Json.Slot ClusterSpec) := [
  .optional "size" .natural32 fun s x => { s with size := x },
  .optional "version" .string fun s x => { s with version := x },
  .optional "serverImage" .string fun s x => { s with serverImage := x },
  .optional "tls" (.option TlsSecrets.decoder) fun s x => { s with tls := x },
  .optional "serverConfig" (.option LogFlags.decoder) fun s x => { s with logging := x }]

def decoder : Json.Decoder ClusterSpec := .record "NatsClusterSpec" slots {}

end ClusterSpec

end NatsFleet
