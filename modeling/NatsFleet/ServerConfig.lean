import NatsFleet.Cluster.Spec
import NatsFleet.Layout

/-!
The configuration document of the servers of a cluster, and its text.
-/
namespace NatsFleet

structure TlsFiles where
  caFile : String
  certFile : String
  keyFile : String
  deriving DecidableEq

/-- The configuration of the servers of a cluster. -/
structure ServerConfig where
  clientPort : Int32
  httpPort : Int32
  debug : Bool
  trace : Bool
  tls : Option TlsFiles
  clusterPort : Int32
  -- The addresses of the routes, in the order in which they are written.
  routes : List String
  clusterTls : Option TlsFiles
  deriving DecidableEq

namespace TlsFiles

def server : TlsFiles :=
  ⟨Layout.serverTlsPath ++ "/" ++ Layout.caFile,
    Layout.serverTlsPath ++ "/" ++ Layout.serverCertFile,
    Layout.serverTlsPath ++ "/" ++ Layout.serverKeyFile⟩

def routes : TlsFiles :=
  ⟨Layout.routesTlsPath ++ "/" ++ Layout.caFile,
    Layout.routesTlsPath ++ "/" ++ Layout.routesCertFile,
    Layout.routesTlsPath ++ "/" ++ Layout.routesKeyFile⟩

def lines (indent : String) (t : TlsFiles) : List String := [
  indent ++ "tls \x7b",
  indent ++ "  ca_file: \"" ++ t.caFile ++ "\"",
  indent ++ "  cert_file: \"" ++ t.certFile ++ "\"",
  indent ++ "  key_file: \"" ++ t.keyFile ++ "\"",
  indent ++ "\x7d"]

end TlsFiles

namespace ServerConfig

/-- The configuration that a spec asks for, with the addresses of the routes. -/
def forCluster (spec : ClusterSpec) (routes : List String) : ServerConfig where
  clientPort := Layout.clientPort
  httpPort := Layout.monitoringPort
  debug := (spec.logging.getD {}).debug
  trace := (spec.logging.getD {}).trace
  tls := spec.serverSecret.map fun _ => TlsFiles.server
  clusterPort := Layout.clusterPort
  routes := routes
  clusterTls := spec.routesSecret.map fun _ => TlsFiles.routes

def portText (port : Int32) : String := toString port.toInt

def flagText (flag : Bool) : String := if flag then "true" else "false"

def routeLine (port : Int32) (route : String) : String :=
  "    nats://" ++ route ++ ":" ++ portText port

def lines (c : ServerConfig) : List String :=
  ["port: " ++ portText c.clientPort, "http: " ++ portText c.httpPort,
    "debug: " ++ flagText c.debug, "trace: " ++ flagText c.trace] ++
  (match c.tls with
    | none => []
    | some t => "" :: t.lines "") ++
  ["", "cluster \x7b", "  port: " ++ portText c.clusterPort, "  routes = ["] ++
  c.routes.map (routeLine c.clusterPort) ++ ["  ]"] ++
  (match c.clusterTls with
    | none => []
    | some t => t.lines "  ") ++
  ["\x7d"]

/-- The text of the document: its lines, each ended by a line feed. -/
def render (c : ServerConfig) : String := String.join (c.lines.map (· ++ "\n"))

end ServerConfig

end NatsFleet
