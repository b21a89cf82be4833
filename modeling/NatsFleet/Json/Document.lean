import NatsFleet.Json.Basic

/-!
A JSON text as far as it can be read. A fault stands where reading stopped, so that a reader of
records meets the complaints about a text in the order in which they stand in it.
-/
namespace NatsFleet.Json

/-- What a text is inside of when it ends too early. -/
inductive Part where
  | value
  | list
  | object
  | string
  deriving DecidableEq

/-- What keeps a text from being JSON. -/
inductive Flaw where
  | noColon
  | noListEnd
  | noObjectEnd
  | noWord
  | noValue
  | badEscape
  | badNumber
  | hugeNumber
  | control
  | badKey
  -- Half of a surrogate pair stands alone.
  | halfPair
  -- Something else stands where the second half of a surrogate pair belongs.
  | openPair
  | trailingComma
  | trailing
  | tooDeep
  deriving DecidableEq

/-- Why a text cannot be read on: it ends too early, or it is not JSON. -/
inductive Fault where
  | truncated (inside : Part)
  | malformed (flaw : Flaw)
  deriving DecidableEq

def Part.name : Part → String
  | .value => "a value"
  | .list => "a list"
  | .object => "an object"
  | .string => "a string"

def Flaw.message : Flaw → String
  | .noColon => "expected `:`"
  | .noListEnd => "expected `,` or `]`"
  | .noObjectEnd => "expected `,` or `\x7d`"
  | .noWord => "expected ident"
  | .noValue => "expected value"
  | .badEscape => "invalid escape"
  | .badNumber => "invalid number"
  | .hugeNumber => "number out of range"
  | .control => "control character (\\u0000-\\u001F) found while parsing a string"
  | .badKey => "key must be a string"
  | .halfPair => "lone leading surrogate in hex escape"
  | .openPair => "unexpected end of hex escape"
  | .trailingComma => "trailing comma"
  | .trailing => "trailing characters"
  | .tooDeep => "recursion limit exceeded"

def Fault.message : Fault → String
  | .truncated part => "EOF while parsing " ++ part.name
  | .malformed flaw => flaw.message

/-- How the items of an array or the fields of an object end. -/
inductive Ending where
  -- The closing bracket.
  | closed
  -- Neither a bracket nor a comma.
  | broken (fault : Fault)
  -- A comma, and then no further item.
  | dangling (fault : Fault)
  deriving DecidableEq

/-- A JSON text as far as it can be read. A string or a number that can be skipped but not read
holds its fault; so does a place where nothing can be read, with the fault of skipping it. -/
inductive Document where
  | null
  | bool (b : Bool)
  | number (value : Except Fault Number)
  | string (content : Except Fault String)
  | array (items : List Document) (ending : Ending)
  | object (fields : List (Except Fault String × Document)) (ending : Ending)
  | fault (reading skipping : Fault)

instance : Inhabited Document := ⟨.null⟩

mutual

/-- A value as a document that can be read to its end. -/
def toDocument : Json → Document
  | .null => .null
  | .bool b => .bool b
  | .number n => .number (.ok n)
  | .string s => .string (.ok s)
  | .array items => .array (itemsToDocument items) .closed
  | .object fields => .object (fieldsToDocument fields) .closed

/-- The items of an array as documents. -/
def itemsToDocument : List Json → List Document
  | [] => []
  | item :: rest => toDocument item :: itemsToDocument rest

/-- The fields of an object as documents. -/
def fieldsToDocument : List (String × Json) → List (Except Fault String × Document)
  | [] => []
  | (name, value) :: rest => (.ok name, toDocument value) :: fieldsToDocument rest

end

/-- The fault of something that stands where an array or an object has to end. -/
def Ending.leftover : Ending → Fault
  | .broken (.truncated part) => .truncated part
  | .dangling (.malformed .trailingComma) => .malformed .trailingComma
  | _ => .malformed .trailing

/-- The fault of skipping over the end of an array or an object, if there is one. -/
def Ending.fault? : Ending → Option Fault
  | .closed => none
  | .broken f | .dangling f => some f

namespace Document

mutual

/-- The first fault met when the document is skipped without being read. -/
def skip : Document → Except Fault Unit
  | .fault _ f => .error f
  | .array items ending => skipItems items ending
  | .object fields ending => skipFields fields ending
  | _ => .ok ()

/-- The first fault met when the items of an array are skipped. -/
def skipItems : List Document → Ending → Except Fault Unit
  | [], ending => match ending.fault? with
    | none => .ok ()
    | some f => .error f
  | item :: rest, ending => match skip item with
    | .ok () => skipItems rest ending
    | .error f => .error f

/-- The first fault met when the fields of an object are skipped. -/
def skipFields : List (Except Fault String × Document) → Ending → Except Fault Unit
  | [], ending => match ending.fault? with
    | none => .ok ()
    | some f => .error f
  | (_, value) :: rest, ending => match skip value with
    | .ok () => skipFields rest ending
    | .error f => .error f

end

mutual

/-- The value of a document, at most `depth` levels deep. The fields of an object come in the order
of their names, and the last of those with one name counts. -/
def value (depth : Nat) : Document → Except Fault Json
  | .null => .ok .null
  | .bool b => .ok (.bool b)
  | .number n => n.map .number
  | .string s => s.map .string
  | .fault f _ => .error f
  | .array items ending =>
    if depth = 0 then .error (.malformed .tooDeep)
    else (itemValues (depth - 1) items ending).map .array
  | .object fields ending =>
    if depth = 0 then .error (.malformed .tooDeep)
    else (fieldValues (depth - 1) fields ending []).map .object

/-- The values of the items of an array. -/
def itemValues (depth : Nat) : List Document → Ending → Except Fault (List Json)
  | [], ending => match ending.fault? with
    | none => .ok []
    | some f => .error f
  | item :: rest, ending => do
    let v ← value depth item
    let vs ← itemValues depth rest ending
    .ok (v :: vs)

/-- The values of the fields of an object, added to those before them. -/
def fieldValues (depth : Nat) :
    List (Except Fault String × Document) → Ending → List (String × Json) →
      Except Fault (List (String × Json))
  | [], ending, sofar => match ending.fault? with
    | none => .ok sofar
    | some f => .error f
  | (name, item) :: rest, ending, sofar => do
    let n ← name
    let v ← value depth item
    fieldValues depth rest ending (putField n v sofar)

end

end Document

end NatsFleet.Json
