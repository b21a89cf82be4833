import NatsFleet.Cli.Needs
import NatsFleet.Log.Line
import Std.Time.DateTime.Timestamp

/-!
The command line: reads the environment and the files that a call needs, and prints what the call
comes to. It has no connection to any network.
-/
namespace NatsFleet.CommandLine

/-- Why a file could not be read. -/
def reason : IO.Error → String
  | .noFileOrDirectory _ _ _ => "No such file or directory (os error 2)"
  | .permissionDenied _ _ _ => "Permission denied (os error 13)"
  | .inappropriateType _ _ _ => "Is a directory (os error 21)"
  | e => toString e

/-- The contents of files, or why they could not be read. -/
def contents (paths : List String) : IO (List (String × Except String String)) :=
  paths.mapM fun (path : String) => do
    try
      return (path, .ok (← IO.FS.readFile path))
    catch e =>
      return (path, .error (reason e))

def environment : IO Access.Environment := do
  let values ← Cli.variableNames.filterMapM fun name => do
    return (← IO.getEnv name).map (name, ·)
  return fun name => values.lookup name

/-- Files that have been read; all others are absent. -/
def files (found : List (String × Except String String)) : Access.Files := fun path =>
  (found.lookup path).getD (.error "No such file or directory (os error 2)")

def now : IO Timestamp := do
  let nanos := (← Std.Time.Timestamp.now).toNanosecondsSinceUnixEpoch.val
  return ⟨nanos.fdiv 1000000000, (nanos.fmod 1000000000).toNat⟩

/-- What a call with these arguments comes to. -/
def outcome (arguments : List String) : IO Cli.Outcome := do
  let values ← environment
  let paths := Cli.paths arguments values
  let found ← contents paths
  let more ← contents (Cli.mentioned (files found) paths)
  return Cli.run arguments {
    environment := values
    files := files (found ++ more)
    network := fun _ _ => .broken "client error (Connect)" }

end NatsFleet.CommandLine

open NatsFleet in
def main (arguments : List String) : IO UInt32 := do
  let outcome ← CommandLine.outcome arguments
  for (target, entry) in outcome.log do
    IO.println (entry.line (← CommandLine.now) target).text
  IO.print outcome.output
  IO.eprint outcome.complaint
  return outcome.status.toUInt32
