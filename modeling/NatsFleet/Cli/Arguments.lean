import NatsFleet.Layout
import NatsFleet.Text.Similar
import NatsFleet.Text.Whole

/-!
The arguments of the command line. The first argument that is refused decides, except that the value
of an option is looked at only when the next option comes.
-/
namespace NatsFleet.Cli

inductive Choice where
  | place
  | kubeconfig
  | interval
  | debug
  | trace
  | help
  | version
  deriving DecidableEq

namespace Choice

/-- The options, in the order in which they are listed. -/
def all : List Choice := [place, kubeconfig, interval, debug, trace, help, version]

def name : Choice → String
  | place => "namespace"
  | kubeconfig => "kubeconfig"
  | interval => "reconcile-interval"
  | debug => "debug"
  | trace => "trace"
  | help => "help"
  | version => "version"

/-- The name of the value of an option, if it has one. -/
def value? : Choice → Option String
  | place => some "NAMESPACE"
  | kubeconfig => some "KUBECONFIG"
  | interval => some "RECONCILE_INTERVAL"
  | _ => none

def letter? : Choice → Option Char
  | help => some 'h'
  | version => some 'V'
  | _ => none

/-- The environment variable that stands in for an option. -/
def envName? : Choice → Option String
  | place => some "WATCH_NAMESPACE"
  | kubeconfig => some "KUBERNETES_CONFIG_FILE"
  | _ => none

def usage (c : Choice) : String :=
  "--" ++ c.name ++ ((c.value?.map fun v => " <" ++ v ++ ">").getD "")

def named? (name : String) : Option Choice := all.find? fun c => c.name = name

def lettered? (letter : Char) : Option Choice := all.find? fun c => c.letter? = some letter

/-- The option whose name is most like a name that there is not, if it is like it at all. -/
def similar? (name : String) : Option Choice :=
  let shares := all.map fun c => (c, Text.likeness name c.name)
  let alike := shares.filter fun s => Text.Share.lt ⟨7, 10⟩ s.2
  (alike.foldl (fun best s => match best with
    | some b => if Text.Share.lt s.2 b.2 then some b else some s
    | none => some s) none).map (·.1)

end Choice

inductive Refusal where
  -- There is no such option, and options have no further arguments; the options used so far are
  -- shown, and one with a similar name.
  | unexpected (argument : String) (similar : Option Choice) (used : List Choice)
  | noValue (choice : Choice)
  | badValue (choice : Choice) (value reason : String)
  | repeated (choice : Choice)
  -- The option takes no value.
  | extraValue (choice : Choice) (value : String) (used : List Choice)

def program : String := Layout.managerName

/-- How the program is called with these options. -/
def usageLine (used : List Choice) : String :=
  let shown := (used.map Choice.usage).eraseDups
  "Usage: " ++ program ++ " " ++
    (if shown.isEmpty then "[OPTIONS]" else " ".intercalate shown)

namespace Refusal

/-- What is wrong, and how the program is called. -/
def parts : Refusal → List String
  | .unexpected argument similar used =>
    ["unexpected argument '" ++ argument ++ "' found"] ++
      (similar.toList.map fun c => "  tip: a similar argument exists: '--" ++ c.name ++ "'") ++
      [usageLine (used ++ similar.toList)]
  | .noValue c => ["a value is required for '" ++ c.usage ++ "' but none was supplied"]
  | .badValue c value reason =>
    ["invalid value '" ++ value ++ "' for '" ++ c.usage ++ "': " ++ reason]
  | .repeated c =>
    ["the argument '" ++ c.usage ++ "' cannot be used multiple times", usageLine []]
  | .extraValue c value used =>
    ["unexpected value '" ++ value ++ "' for '" ++ c.usage ++ "' found; no more were expected",
      usageLine (used ++ [c])]

def message (r : Refusal) : String :=
  "error: " ++ "\n\n".intercalate (r.parts ++ ["For more information, try '--help'."]) ++ "\n"

end Refusal

structure Arguments where
  -- The namespace to watch; all of them if it is empty.
  place : String := ""
  kubeconfig : Option String := none
  -- Seconds between the passes of a controller.
  interval : Nat := Layout.reconcileInterval / 1000
  debug : Bool := false
  trace : Bool := false

/-- What the program is asked to do. -/
inductive Command where
  | run (arguments : Arguments)
  | help
  | version

inductive Stop where
  | refused (r : Refusal)
  | command (c : Command)

/-- What has been read of the arguments: what they say so far, the options that were used, in order,
and an option whose value has not been looked at. -/
structure Progress where
  arguments : Arguments := {}
  used : List Choice := []
  pending : Option (Choice × Option String) := none

namespace Progress

def assign (a : Arguments) (c : Choice) (value : String) : Except Refusal Arguments :=
  match c with
  | .place => .ok { a with place := value }
  | .kubeconfig =>
    if value.isEmpty then .error (.noValue c) else .ok { a with kubeconfig := some value }
  | .interval =>
    match Text.whole 64 value with
    | .ok n => .ok { a with interval := n }
    | .error flaw => .error (.badValue c value flaw.message)
  | .debug => .ok { a with debug := true }
  | .trace => .ok { a with trace := true }
  | .help | .version => .ok a

/-- An option is used; what comes of it, and whether it counts as used even if it is refused. -/
def use (p : Progress) (c : Choice) (value : String) : Option Refusal × Progress :=
  if c ∈ p.used then (some (.repeated c), { p with used := p.used.filter (· ≠ c) })
  else
    let p := { p with used := p.used ++ [c] }
    match assign p.arguments c value with
    | .ok a => (none, { p with arguments := a })
    | .error r => (some r, p)

def settle (p : Progress) : Option Refusal × Progress :=
  match p.pending with
  | none => (none, p)
  | some (c, none) => (some (.noValue c), { p with pending := none })
  | some (c, some value) => use { p with pending := none } c value

/-- Goes on with what has been settled. -/
def settled (p : Progress) (next : Progress → Except Stop Progress) : Except Stop Progress :=
  match p.settle with
  | (some r, _) => .error (.refused r)
  | (none, p) => next p

/-- An option without a value is used. -/
def useFlag (p : Progress) (c : Choice) : Except Stop Progress :=
  p.settled fun p =>
    match c with
    | .help => .error (.command .help)
    | .version => .error (.command .version)
    | c =>
      match p.use c "" with
      | (some r, _) => .error (.refused r)
      | (none, p) => .ok p

/-- An argument that is no option is refused. -/
def refuse {α : Type} (argument : String) : Except Stop α :=
  .error (.refused (.unexpected argument none []))

def long (p : Progress) (name : String) (value : Option String) : Except Stop Progress :=
  match Choice.named? name, value with
  | none, _ =>
    .error (.refused (.unexpected ("--" ++ name) (Choice.similar? name) p.settle.2.used))
  | some c, none =>
    if c.value?.isSome then p.settled fun p => .ok { p with pending := some (c, none) }
    else p.useFlag c
  | some c, some value =>
    if c.value?.isSome then
      p.settled fun p =>
        match p.use c value with
        | (some r, _) => .error (.refused r)
        | (none, p) => .ok p
    else .error (.refused (.extraValue c value p.used))

def short (p : Progress) : List Char → Except Stop Progress
  | [] => .ok p
  | letter :: rest =>
    match Choice.lettered? letter with
    | none => refuse (String.ofList ['-', letter])
    | some c => do (← p.useFlag c).short rest

/-- An argument that may be the value of the pending option. -/
def plain (p : Progress) (argument : String) : Except Stop Progress :=
  match p.pending with
  | some (c, none) => .ok { p with pending := some (c, some argument) }
  | _ => refuse argument

def step (p : Progress) (argument : String) : Except Stop Progress :=
  match argument.toList with
  | '-' :: '-' :: rest =>
    let value := (rest.dropWhile (· ≠ '=')).tail?
    p.long (String.ofList (rest.takeWhile (· ≠ '='))) (value.map String.ofList)
  | '-' :: c :: rest => p.short (c :: rest)
  | _ => p.plain argument

/-- The arguments in order; after two dashes no further one is expected. -/
def steps (p : Progress) : List String → Except Stop Progress
  | [] => .ok p
  | argument :: rest =>
    if argument = "--" then
      match rest with
      | [] => .ok p
      | next :: _ => refuse next
    else do (← p.step argument).steps rest

/-- An option that was not used gets its value from the environment. -/
def inherit (environment : String → Option String) (p : Progress) (c : Choice) :
    Except Stop Progress :=
  match c.envName?.bind environment with
  | none => .ok p
  | some value =>
    if c ∈ p.used then .ok p
    else match p.use c value with
      | (some r, _) => .error (.refused r)
      | (none, p) => .ok p

end Progress

def read (arguments : List String) (environment : String → Option String) :
    Except Refusal Command :=
  let result : Except Stop Progress := do
    let p ← Progress.steps {} arguments
    let p ← p.settled .ok
    Choice.all.foldlM (Progress.inherit environment) p
  match result with
  | .ok p => .ok (.run p.arguments)
  | .error (.command c) => .ok c
  | .error (.refused r) => .error r

def Choice.helpLines (environment : String → Option String) (c : Choice) : List String :=
  let shown := match c.envName? with
    | some v => " [env: " ++ v ++ "=" ++ (environment v).getD "" ++ "]"
    | none => ""
  let described (text : String) := ["      " ++ c.usage, "          " ++ text]
  match c with
  | .place =>
    described ("Namespace to watch (empty for all namespaces)" ++ shown ++ " [default: \"\"]")
  | .kubeconfig =>
    described ("Path to a kubeconfig file (in-cluster or default config when unset)" ++ shown)
  | .interval =>
    described ("Seconds between reconciliation passes of each cluster [default: " ++
      toString ({} : Arguments).interval ++ "]")
  | .debug => described "Enable debug logging"
  | .trace => described "Enable trace logging"
  | .help => ["  -h, --help", "          Print help"]
  | .version => ["  -V, --version", "          Print version"]

def helpText (environment : String → Option String) : String :=
  let start := ["Kubernetes Operator for NATS server clusters", "", usageLine [], "", "Options:"]
  "\n".intercalate (start ++ Choice.all.flatMap (Choice.helpLines environment)) ++ "\n"

def versionText : String := program ++ " 0.1.0\n"

end NatsFleet.Cli
