import NatsFleet.Access.Route
import NatsFleet.Text.Whole

/-!
The way to a cluster when none is named: the files that the environment names or those at home, and
inside a cluster that cluster itself.
-/
namespace NatsFleet.Access

/-- Why the cluster around the program cannot be reached. -/
inductive InsideFlaw where
  | noVariable
  | badPort (flaw : Text.WholeFlaw)
  | badAddress (flaw : Http.AddressFlaw)
  | noNamespace (reason : String)
  | noCertificates (reason : String)

def InsideFlaw.message : InsideFlaw → String
  | .noVariable =>
    "failed to read an incluster environment variable: environment variable not found"
  | .badPort flaw => "failed to parse cluster port: " ++ flaw.message
  | .badAddress flaw => "failed to parse cluster url: " ++ flaw.message
  | .noNamespace reason => "failed to read the default namespace: " ++ reason
  | .noCertificates reason => "failed to read a certificate bundle: " ++ reason

/-- The directory with what a pod knows of its cluster. -/
def accountDirectory : String := "/var/run/secrets/kubernetes.io/serviceaccount"

/-- The file with the token of a pod. -/
def tokenPath : String := accountDirectory ++ "/token"

/-- The file with the namespace of a pod. -/
def namespacePath : String := accountDirectory ++ "/namespace"

/-- The file with the certificates that a pod trusts. -/
def certificatePath : String := accountDirectory ++ "/ca.crt"

/-- The text of a host in an address: the numbers of version six stand in brackets. -/
def hostText (host : String) : String :=
  let cs := host.toList
  let digits := "0123456789abcdefABCDEF:.".toList
  if 2 ≤ (cs.filter (· = ':')).length && cs.all digits.contains then "[" ++ host ++ "]" else host

/-- The way from a pod to its cluster. -/
def inside (environment : Environment) (files : Files) : Except InsideFlaw Route := do
  let setting (name : String) : Except InsideFlaw String :=
    match environment name with
    | some value => .ok value
    | none => .error .noVariable
  let host ← setting "KUBERNETES_SERVICE_HOST"
  let port ← setting "KUBERNETES_SERVICE_PORT"
  let port ← (Text.whole 16 port).mapError .badPort
  let address := "https://" ++ hostText host ++ (if port = 443 then "" else ":" ++ toString port)
  let server ← (Http.Address.read address).mapError .badAddress
  let _ ← (files namespacePath).mapError .noNamespace
  let _ ← (files certificatePath).mapError .noCertificates
  return { server := server, user := { tokenFile := some tokenPath } }

/-- The paths in the list that a variable holds. -/
def paths (list : String) : List String := (list.splitOn ":").filter fun p => !p.isEmpty

/-- The paths of the files that the environment names, or of the file at home. -/
def usualPaths (environment : Environment) : Option (List String) :=
  match (environment "KUBECONFIG").map paths with
  | some (first :: rest) => some (first :: rest)
  | _ => (environment "HOME").map fun home => [pathFrom home ".kube/config"]

def usualFiles (environment : Environment) (files : Files) : Except RouteFlaw Kubeconfig :=
  match usualPaths environment with
  | some paths => (Kubeconfig.readAll files paths).mapError .file
  | none => .error .noPath

/-- Why no way to any cluster was found. -/
structure InferenceFlaw where
  inside : InsideFlaw
  outside : RouteFlaw

namespace InferenceFlaw

/-- The words for it, as part of others. -/
def inner (f : InferenceFlaw) : String :=
  "failed to infer config: in-cluster: (" ++ f.inside.message ++ "), kubeconfig: (" ++
    f.outside.message ++ ")"

def message (f : InferenceFlaw) : String := "Failed to infer configuration: " ++ f.inner

def causes (f : InferenceFlaw) : List String := f.inner :: f.outside.message :: f.outside.causes

end InferenceFlaw

/-- The way to a cluster when none is named. -/
def infer (environment : Environment) (files : Files) : Except InferenceFlaw Route :=
  match (usualFiles environment files).bind fun k => k.route files environment with
  | .ok route => .ok route
  | .error outside =>
    match inside environment files with
    | .ok route => .ok route
    | .error flaw => .error ⟨flaw, outside⟩

end NatsFleet.Access
