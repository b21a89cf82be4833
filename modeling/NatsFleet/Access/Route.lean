import NatsFleet.Access.Kubeconfig
import NatsFleet.Http.Address
import NatsFleet.Text.Base64

/-!
The way to a cluster: the address of its API server, perhaps a proxy in front of it, and the user.
-/
namespace NatsFleet.Access

abbrev Environment := String → Option String

structure Route where
  server : Http.Address
  proxy : Option Http.Address := none
  user : Credentials := {}

/-- Why the certificates that are trusted cannot be had. -/
inductive TrustFlaw where
  | data (flaw : Text.Base64Flaw)
  | file (path reason : String)

def TrustFlaw.causes : TrustFlaw → List String
  | .data flaw => ["failed to decode base64-encoded data: " ++ flaw.message, flaw.message]
  | .file path reason =>
    ["failed to read file '" ++ Text.quoted path ++ "': " ++ reason, reason]

/-- Why files show no way to a cluster. -/
inductive RouteFlaw where
  | file (flaw : FileFlaw)
  -- It is not known where the files are.
  | noPath
  | noCurrentContext
  | noContext (name : String)
  | noCluster (name : String)
  | noUser (name : String)
  | noServer
  | badServer (flaw : Http.AddressFlaw)
  | badTrust (flaw : TrustFlaw)
  | badProxy (flaw : Http.AddressFlaw)

namespace RouteFlaw

def message : RouteFlaw → String
  | .file flaw => flaw.message
  | .noPath => "failed to find the path of kubeconfig"
  | .noCurrentContext => "failed to determine current context"
  | .noContext name => "failed to load current context: " ++ name
  | .noCluster name => "failed to load the cluster of context: " ++ name
  | .noUser name => "failed to find named user: " ++ name
  | .noServer => "cluster url is missing on selected cluster"
  | .badServer flaw => "failed to parse cluster url: " ++ flaw.message
  | .badTrust _ => "failed to load certificate authority"
  | .badProxy flaw => "failed to parse proxy url: " ++ flaw.message

def causes : RouteFlaw → List String
  | .file flaw => flaw.causes
  | .badServer flaw | .badProxy flaw => [flaw.message]
  | .badTrust flaw => flaw.causes
  | _ => []

end RouteFlaw

/-- What has a name and is there. -/
def named? {α : Type} (l : List (Named α)) (name : String) : Option α :=
  (l.find? fun n => n.name = name).bind (·.content)

/-- A value that is there, or a flaw. -/
def orFlaw {α : Type} (flaw : RouteFlaw) : Option α → Except RouteFlaw α
  | some a => .ok a
  | none => .error flaw

/-- The certificates that are trusted can be had; data go before a file. -/
def checkTrust (files : Files) (e : Endpoint) : Except RouteFlaw Unit :=
  match e.trustedData, e.trusted with
  | some data, _ =>
    match Text.base64Flaw? data with
    | some flaw => .error (.badTrust (.data flaw))
    | none => .ok ()
  | none, some path =>
    match files path with
    | .error reason => .error (.badTrust (.file path reason))
    | .ok _ => .ok ()
  | none, none => .ok ()

/-- The variables that name a proxy, the first that is set being used. -/
def proxyVariables : List String := ["HTTP_PROXY", "http_proxy", "HTTPS_PROXY", "https_proxy"]

/-- The proxy in front of a cluster. -/
def proxy (environment : Environment) (e : Endpoint) : Except RouteFlaw (Option Http.Address) :=
  match (e.proxy :: proxyVariables.map environment).findSome? (·.filter fun s => !s.isEmpty) with
  | none => .ok none
  | some text => ((Http.Address.read text).mapError .badProxy).map some

/-- The way that the context in use shows. -/
def Kubeconfig.route (k : Kubeconfig) (files : Files) (environment : Environment) :
    Except RouteFlaw Route := do
  let current ← orFlaw .noCurrentContext k.current
  let context ← orFlaw (.noContext current) (named? k.contexts current)
  let cluster ← orFlaw (.noCluster context.cluster) (named? k.clusters context.cluster)
  let user ← match context.user with
    | none => pure {}
    | some name => orFlaw (.noUser name) (named? k.users name)
  let server ← orFlaw .noServer cluster.server
  let server ← (Http.Address.read server).mapError .badServer
  checkTrust files cluster
  return ⟨server, ← proxy environment cluster, user⟩

/-- The paths of other files that are named. -/
def Kubeconfig.mentioned (k : Kubeconfig) : List String :=
  (k.clusters.filterMap fun n => n.content.bind (·.trusted)) ++
    k.users.filterMap fun n => n.content.bind (·.tokenFile)

inductive Obstacle where
  | proxyWithout (proxy : Http.Address) (feature : String)
  | strangeProxy (proxy : Http.Address)
  | noToken (path reason : String)

namespace Obstacle

def causes : Obstacle → List String
  | .noToken path reason =>
    ["failed to read token file '" ++ Text.quoted path ++ "': " ++ reason, reason]
  | _ => []

def message : Obstacle → String
  | .proxyWithout proxy feature =>
    "configured proxy " ++ proxy.text ++ " requires the disabled feature " ++ Text.quoted feature
  | .strangeProxy proxy => "configured proxy " ++ proxy.text ++ " uses an unsupported protocol"
  | .noToken path reason =>
    "auth error: failed to read token file '" ++ Text.quoted path ++ "': " ++ reason

end Obstacle

namespace Route

/-- What is in the way, if anything is: no proxy is supported, and a file that a token is read from
must be there. A password and a token of its own go before that file. -/
def obstacle? (r : Route) (files : Files) : Option Obstacle :=
  match r.proxy with
  | some p =>
    some (match p.scheme with
      | some "socks5" => .proxyWithout p "kube/socks5"
      | some "http" => .proxyWithout p "kube/http-proxy"
      | _ => .strangeProxy p)
  | none =>
    if (r.user.username.isSome && r.user.password.isSome) || r.user.token.isSome then none
    else r.user.tokenFile.bind fun path =>
      match files path with
      | .error reason => some (.noToken path reason)
      | .ok _ => none

end Route

end NatsFleet.Access
