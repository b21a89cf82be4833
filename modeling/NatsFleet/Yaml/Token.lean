/-!
The tokens of a YAML text, with the places at which they start.
-/
namespace NatsFleet.Yaml

structure Mark where
  index : Nat := 0
  line : Nat := 0
  column : Nat := 0
  deriving DecidableEq

/-- A place as messages show it, counted from one. -/
def Mark.text (m : Mark) : String :=
  "line " ++ toString (m.line + 1) ++ " column " ++ toString (m.column + 1)

/-- The place is the start of the text. -/
def Mark.isStart (m : Mark) : Bool := m.line = 0 && m.column = 0

/-- Why a text cannot be read, where, and in the middle of what. -/
structure Problem where
  problem : String
  mark : Mark
  context : Option (String × Mark) := none

/-- The words for a problem. Places at the start of the text are left out. -/
def Problem.message (p : Problem) : String :=
  p.problem ++ (if p.mark.isStart then "" else " at " ++ p.mark.text) ++
    match p.context with
    | none => ""
    | some (what, mark) =>
      ", " ++ what ++
        (if mark.isStart || (mark.line = p.mark.line && mark.column = p.mark.column) then ""
          else " at " ++ mark.text)

inductive Lexeme where
  | directive
  | documentStart
  | documentEnd
  | blockSequence
  | blockMapping
  | blockEnd
  | flowSequence
  | flowSequenceEnd
  | flowMapping
  | flowMappingEnd
  | blockEntry
  | flowEntry
  | key
  | value
  | alias (name : String)
  | anchor (name : String)
  | tag (text : String)
  | scalar (text : String) (plain : Bool)
  | streamEnd
  deriving DecidableEq

structure Token where
  lexeme : Lexeme
  start : Mark

end NatsFleet.Yaml
