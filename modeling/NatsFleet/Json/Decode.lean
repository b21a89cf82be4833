import NatsFleet.Json.Complaint
import NatsFleet.Json.Reader

/-!
Decoding records from documents. A record is read from an object by the names of its fields, or from
an array by their order; the first thing wrong with a document, in the order of its text, is the one
complained about.
-/
namespace NatsFleet.Json

/-- Where a document comes from: a value read before, or a text that is read while it is decoded. -/
inductive Origin where
  | value
  | text
  deriving DecidableEq

/-- A reader of one type from documents. -/
abbrev Decoder (α : Type) := Origin → Document → Except DecodeError α

def complain {α : Type} (c : Complaint) : Except DecodeError α := .error (.complaint c)

/-- Ends with the fault of a text, if there is one. -/
def orFault {α : Type} : Except Fault α → Except DecodeError α
  | .ok a => .ok a
  | .error f => .error (.fault f)

/-- What a document holds where something else belongs. -/
def Document.found : Document → Except DecodeError Found
  | .null => .ok .null
  | .bool b => .ok (.bool b)
  | .number n => (orFault n).map .number
  | .string s => (orFault s).map .string
  | .array _ _ => .ok .sequence
  | .object _ _ => .ok .map
  | .fault f _ => .error (.fault f)

/-- Complains that a document is not of the expected kind. -/
def Document.mismatch {α : Type} (document : Document) (expected : String) :
    Except DecodeError α := do
  complain (.wrongType (← document.found) expected)

/-- Ends with the fault of the end of an array or an object, if there is one. -/
def Ending.check (ending : Ending) : Except DecodeError Unit :=
  match ending.fault? with
  | none => .ok ()
  | some f => .error (.fault f)

namespace Decoder

def string : Decoder String
  | _, .string s => orFault s
  | _, document => document.mismatch "a string"

def bool : Decoder Bool
  | _, .bool b => .ok b
  | _, document => document.mismatch "a boolean"

def between (low high : Int) (expected : String) : Decoder Int
  | _, .number (.ok (.whole n)) =>
    if low ≤ n ∧ n ≤ high then .ok n
    else complain (.wrongValue (.number (.whole n)) expected)
  | _, document => document.mismatch expected

def natural32 : Decoder UInt32 := fun origin document => do
  let n ← between 0 4294967295 "u32" origin document
  .ok n.toNat.toUInt32

def integer64 : Decoder Int := between (-9223372036854775808) 9223372036854775807 "i64"

def option {α : Type} (d : Decoder α) : Decoder (Option α)
  | _, .null => .ok none
  | origin, document => (d origin document).map some

/-- The items of a list, each read by `d`. -/
def items {α : Type} (d : Decoder α) (origin : Origin) (ending : Ending) :
    List Document → Except DecodeError (List α)
  | [] => do
    ending.check
    .ok []
  | item :: rest => do
    let a ← d origin item
    let as ← items d origin ending rest
    .ok (a :: as)

def list {α : Type} (d : Decoder α) : Decoder (List α)
  | origin, .array documents ending => items d origin ending documents
  | _, document => document.mismatch "a sequence"

/-- Adds an entry to entries in the order of their names; an entry of that name is replaced. -/
def putEntry {α : Type} (name : String) (a : α) : List (String × α) → List (String × α)
  | [] => [(name, a)]
  | (n, b) :: rest =>
    if name < n then (name, a) :: (n, b) :: rest
    else if name = n then (name, a) :: rest
    else (n, b) :: putEntry name a rest

/-- The entries of a map, each read by `d`, added to those before them. -/
def entries {α : Type} (d : Decoder α) (origin : Origin) (ending : Ending) :
    List (Except Fault String × Document) → List (String × α) →
      Except DecodeError (List (String × α))
  | [], sofar => do
    ending.check
    .ok sofar
  | (name, document) :: rest, sofar => do
    let n ← orFault name
    let a ← d origin document
    entries d origin ending rest (putEntry n a sofar)

/-- A map from texts, in the order of its names. -/
def map {α : Type} (d : Decoder α) : Decoder (List (String × α))
  | origin, .object fields ending => entries d origin ending fields []
  | _, document => document.mismatch "a map"

/-- A value of any kind that stands `depth` levels deep. -/
def anything (depth : Nat) : Decoder Json
  | _, document => orFault (document.value (127 - depth))

end Decoder

/-- A field of a record: its name, whether it must be there, and how it is read into the record. -/
structure Slot (σ : Type) where
  name : String
  required : Bool
  read : Origin → Document → σ → Except DecodeError σ

/-- A field that keeps its default when it is absent. -/
def Slot.optional {σ α : Type} (name : String) (d : Decoder α) (put : σ → α → σ) : Slot σ :=
  ⟨name, false, fun origin document s => (d origin document).map (put s)⟩

def Slot.mandatory {σ α : Type} (name : String) (d : Decoder α) (put : σ → α → σ) : Slot σ :=
  ⟨name, true, fun origin document s => (d origin document).map (put s)⟩

namespace Decoder

/-- A record from the fields of an object. A field may stand only once if `single` is set, and
fields of other names are skipped. -/
def ofFields {σ : Type} (single : Bool) (slots : List (Slot σ)) (origin : Origin)
    (ending : Ending) :
    List (Except Fault String × Document) → List String → σ → Except DecodeError σ
  | [], seen, s => do
    ending.check
    match slots.find? fun slot => slot.required && !seen.contains slot.name with
    | some slot => complain (.missingField slot.name)
    | none => .ok s
  | (name, document) :: rest, seen, s => do
    let n ← orFault name
    match slots.find? fun slot => slot.name == n with
    | none => do
      orFault document.skip
      ofFields single slots origin ending rest seen s
    | some slot =>
      if single && seen.contains n then complain (.repeatedField n)
      else do
        let s ← slot.read origin document s
        ofFields single slots origin ending rest (n :: seen) s

/-- A record from the items of an array, in the order of its fields. `whole` and `expected` tell how
many items and fields there are. -/
def ofItems {σ : Type} (whole : Nat) (expected : String) (origin : Origin) (ending : Ending) :
    List (Slot σ) → List Document → Nat → σ → Except DecodeError σ
  | [], [], _, s => match ending with
    | .closed => .ok s
    | ending => .error (.fault ending.leftover)
  | [], _ :: _, _, _ => match origin with
    | .value => complain (.wrongLength whole "fewer elements in array")
    | .text => .error (.fault (.malformed .trailing))
  | slot :: slots, [], index, s => do
    ending.check
    if slot.required then complain (.wrongLength index expected)
    else ofItems whole expected origin ending slots [] (index + 1) s
  | slot :: slots, item :: rest, index, s => do
    let s ← slot.read origin item s
    ofItems whole expected origin ending slots rest (index + 1) s

/-- A record that has a title for complaints, its fields, and a value to start from. -/
def record {σ : Type} (title : String) (slots : List (Slot σ)) (start : σ) : Decoder σ
  | origin, .object fields ending => ofFields true slots origin ending fields [] start
  | origin, .array items ending =>
    ofItems items.length ("struct " ++ title ++ " with " ++ toString slots.length ++ " elements")
      origin ending slots items 0 start
  | _, document => document.mismatch ("struct " ++ title)

/-- A record that is read from objects only and takes the last of several fields of one name. -/
def object {σ : Type} (title : String) (slots : List (Slot σ)) (start : σ) : Decoder σ
  | origin, .object fields ending => ofFields false slots origin ending fields [] start
  | _, document => document.mismatch title

/-- A record that is read from objects only, in which a field may stand only once. -/
def flat {σ : Type} (title : String) (slots : List (Slot σ)) (start : σ) : Decoder σ
  | origin, .object fields ending => ofFields true slots origin ending fields [] start
  | _, document => document.mismatch ("struct " ++ title)

/-- A text that must be this one. -/
def exactly (text : String) : Decoder Unit := fun origin document => do
  let s ← string origin document
  if s = text then .ok () else complain (.wrongValue (.string s) text)

/-- A text that counts as empty when it is absent. -/
def orEmpty : Decoder String := fun origin document =>
  (option string origin document).map (·.getD "")

def variantNamed {α : Type} (variants : List (String × α)) (name : String) :
    Except DecodeError α :=
  match variants.lookup name with
  | some a => .ok a
  | none => complain (.unknownVariant name (variants.map (·.1)))

/-- The content of a variant that has none. -/
def unit (document : Document) : Except DecodeError Unit :=
  match document with
  | .null => .ok ()
  | _ => document.mismatch "unit"

/-- One of several named variants without content: a text, or an object with that name alone. -/
def variant {α : Type} (variants : List (String × α)) : Decoder α
  | _, .string s => do variantNamed variants (← orFault s)
  | .value, .object [(name, document)] _ => do
    let a ← variantNamed variants (← orFault name)
    unit document
    .ok a
  | .value, .object _ _ => complain (.wrongValue .map "map with a single key")
  | .value, document => document.mismatch "string or map"
  | .text, .object ((name, document) :: rest) ending => do
    let a ← variantNamed variants (← orFault name)
    unit document
    match rest, ending with
    | [], .closed => .ok a
    | [], .broken (.truncated part) => .error (.fault (.truncated part))
    | _, _ => .error (.fault (.malformed .noValue))
  | .text, .object [] (.broken f) => .error (.fault f)
  | .text, .fault f _ => .error (.fault f)
  | .text, _ => .error (.fault (.malformed .noValue))

def readText {α : Type} (d : Decoder α) (text : String) : Except DecodeError α := do
  let (document, after) := readDocument text
  let a ← d .text document
  match after with
  | none => .ok a
  | some f => .error (.fault f)

def readValue {α : Type} (d : Decoder α) (value : Json) : Except DecodeError α :=
  d .value value.toDocument

end Decoder

end NatsFleet.Json
