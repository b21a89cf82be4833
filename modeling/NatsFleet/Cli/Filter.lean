import NatsFleet.Log
import NatsFleet.Text.Whole

/-!
Which log entries are shown: directives, each of which lets the entries of some targets through from
a level on. The directive with the longest target that fits decides.
-/
namespace NatsFleet.Cli

/-- How much is let through: nothing, or entries from a level on. -/
abbrev Threshold := Option Log.Level

structure Directive where
  -- The start of the targets that it is about; all of them if it is absent.
  target : Option String := none
  threshold : Threshold := some .trace
  -- It is about spans, not about entries outside of them.
  inSpan : Bool := false

abbrev Filter := List Directive

def weight : Log.Level → Nat
  | .error => 1
  | .warn => 2
  | .info => 3
  | .debug => 4
  | .trace => 5

/-- An entry of a level is let through. -/
def Threshold.lets (t : Threshold) (level : Log.Level) : Bool :=
  t.any fun lowest => weight level ≤ weight lowest

def thresholds : List (String × Threshold) := [("off", none), ("error", some .error),
  ("warn", some .warn), ("info", some .info), ("debug", some .debug), ("trace", some .trace)]

/-- The threshold that a text names, by its name or its number. -/
def threshold? (text : String) : Option Threshold :=
  if text.isEmpty then some (some .error)
  else match Text.whole 64 text with
    | .ok n => (thresholds[n]?).map (·.2)
    | .error _ => thresholds.lookup (text.map Char.toLower)

/-- A character at the start of a directive. -/
def isStart (c : Char) : Bool :=
  c = '[' || c = '-' || c = ':' || c = '_' || c.isAlphanum || 128 ≤ c.toNat

namespace Directive

/-- The text after a target: a span, or a threshold after an equals sign. -/
def ofTarget? (target : Option String) (rest : List Char) : Option Directive :=
  match rest with
  | '=' :: level => (threshold? (String.ofList level)).map fun t => ⟨target, t, false⟩
  | '[' :: span =>
    match (span.dropWhile (· ≠ ']')).tail? with
    | none => none
    | some [] => some ⟨target, some .trace, true⟩
    | some ('=' :: level) => (threshold? (String.ofList level)).map fun t => ⟨target, t, true⟩
    | some _ => none
  | _ => none

/-- Reads a directive. Blanks in front of it shift its parts. -/
def ofText? (text : String) : Option Directive :=
  let cs := text.trimAscii.toString.toList
  match cs with
  | [] => none
  | c :: _ =>
    let ends (c : Char) : Bool := c = '=' || c = '['
    let name := cs.takeWhile fun c => !ends c
    if !isStart c then none
    else match cs.dropWhile fun c => !ends c with
      | [] =>
        match threshold? text with
        | some t => some ⟨none, t, false⟩
        | none => some ⟨some text, some .trace, false⟩
      | mark :: _ =>
        let target := String.ofList (text.toList.take name.length)
        ofTarget? (if c = '[' then none else some target)
          (mark :: text.toList.drop (name.length + 1))

/-- The directive is about the entries of a target. -/
def isAbout (d : Directive) (target : String) : Bool :=
  !d.inSpan && d.target.all fun start => target.startsWith start

def closeness (d : Directive) : Nat := (d.target.map (·.utf8ByteSize + 1)).getD 0

end Directive

namespace Filter

/-- Reads directives between commas. Without any, errors alone are let through. -/
def ofText? (text : String) : Option Filter := do
  let parts := (text.splitOn ",").filter fun p => !p.isEmpty
  let directives ← parts.mapM Directive.ofText?
  some (if directives.isEmpty then [⟨none, some .error, false⟩] else directives)

/-- The directive that decides about the entries of a target: of those that fit equally closely the
last one. -/
def deciding? (f : Filter) (target : String) : Option Directive :=
  (f.filter fun d => d.isAbout target).foldl (fun best d => match best with
    | some b => if d.closeness < b.closeness then some b else some d
    | none => some d) none

def shows (f : Filter) (target : String) (level : Log.Level) : Bool :=
  (f.deciding? target).any fun d => d.threshold.lets level

end Filter

end NatsFleet.Cli
