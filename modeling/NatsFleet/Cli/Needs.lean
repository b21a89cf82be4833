import NatsFleet.Cli.Outcome

/-!
What a call of the program looks at: some environment variables, some files, and the files that
those mention. A call comes to the same whatever all other variables and files are.
-/
namespace NatsFleet.Cli

/-- The environment variables that a call may look at. -/
def variableNames : List String :=
  Choice.all.filterMap Choice.envName? ++ ["RUST_LOG", "KUBECONFIG", "HOME",
    "KUBERNETES_SERVICE_HOST", "KUBERNETES_SERVICE_PORT"] ++ Access.proxyVariables

/-- The files that a call looks at first. -/
def paths (arguments : List String) (environment : Access.Environment) : List String :=
  match read arguments environment with
  | .ok (.run a) =>
    match a.kubeconfig with
    | some path => [path]
    | none => (Access.usualPaths environment).getD [] ++
        [Access.namespacePath, Access.certificatePath, Access.tokenPath]
  | _ => []

def mentioned (files : Access.Files) (paths : List String) : List String :=
  paths.flatMap fun path =>
    match Access.Kubeconfig.read files path with
    | .ok k => k.mentioned
    | .error _ => []

end NatsFleet.Cli
