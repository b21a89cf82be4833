import NatsFleet.Json.Document

/-!
What can be wrong with the value of a record, and the words for it.
-/
namespace NatsFleet.Json

/-- What was found where something else belongs. -/
inductive Found where
  | null
  -- A null that a text for people has instead of a value.
  | nothing
  | bool (b : Bool)
  | number (n : Number)
  | string (s : String)
  | sequence
  | map

def Found.text : Found → String
  | .null => "null"
  | .nothing => "unit value"
  | .bool b => "boolean `" ++ toString b ++ "`"
  | .number (.whole n) => "integer `" ++ toString n ++ "`"
  | .number (.real x) => "floating point `" ++ Shortest.written x ++ "`"
  | .string s => "string " ++ Text.quoted s
  | .sequence => "sequence"
  | .map => "map"

inductive Complaint where
  | wrongType (found : Found) (expected : String)
  | wrongValue (found : Found) (expected : String)
  | wrongLength (length : Nat) (expected : String)
  | missingField (name : String)
  | repeatedField (name : String)
  | unknownVariant (name : String) (known : List String)
  | refused (reason : String)

def Complaint.message : Complaint → String
  | .wrongType found expected => "invalid type: " ++ found.text ++ ", expected " ++ expected
  | .wrongValue found expected => "invalid value: " ++ found.text ++ ", expected " ++ expected
  | .wrongLength length expected =>
    "invalid length " ++ toString length ++ ", expected " ++ expected
  | .missingField name => "missing field `" ++ name ++ "`"
  | .repeatedField name => "duplicate field `" ++ name ++ "`"
  | .unknownVariant name known =>
    "unknown variant `" ++ name ++ "`, expected one of " ++
      ", ".intercalate (known.map fun k => "`" ++ k ++ "`")
  | .refused reason => reason

/-- Why a value could not be decoded: its text is at fault, or what it says is. -/
inductive DecodeError where
  | fault (f : Fault)
  | complaint (c : Complaint)

def DecodeError.message : DecodeError → String
  | .fault f => f.message
  | .complaint c => c.message

end NatsFleet.Json
