import NatsFleet.Json.Document

/-!
Reading a JSON text into a document. Each reader returns what it read and the text after it, or no
text when nothing after it can be read.
-/
namespace NatsFleet.Json.Reader

/-- The blanks between the tokens of a text. -/
def isBlank (c : Char) : Bool := c = ' ' || c = '\n' || c = '\t' || c = '\r'

/-- The text without the blanks it starts with. -/
def skipBlanks (cs : List Char) : List Char := cs.dropWhile isBlank

def digit? (c : Char) : Option Nat := if c.isDigit then some (c.toNat - '0'.toNat) else none

def hexDigit? (c : Char) : Option Nat :=
  if '0' ≤ c ∧ c ≤ '9' then some (c.toNat - '0'.toNat)
  else if 'a' ≤ c ∧ c ≤ 'f' then some (c.toNat - 'a'.toNat + 10)
  else if 'A' ≤ c ∧ c ≤ 'F' then some (c.toNat - 'A'.toNat + 10)
  else none

def hex4? (a b c d : Char) : Option Nat := do
  let w ← hexDigit? a
  let x ← hexDigit? b
  let y ← hexDigit? c
  let z ← hexDigit? d
  some (((w * 16 + x) * 16 + y) * 16 + z)

/-- The fault of an escape that needs four hexadecimal digits and has `rest` before it. -/
def hexFault (rest : List Char) : Fault :=
  if rest.foldl (fun n c => n + c.utf8Size) 0 < 4 then .truncated .string else .malformed .badEscape

def shortEscape? (c : Char) : Option Char :=
  match c with
  | '"' => some '"'
  | '\\' => some '\\'
  | '/' => some '/'
  | 'b' => some '\x08'
  | 'f' => some '\x0c'
  | 'n' => some '\n'
  | 'r' => some '\r'
  | 't' => some '\t'
  | _ => none

/-- What reading a string meets: its content and the text after it, or a fault. -/
inductive StringRead where
  | content (text : Except Fault String) (rest : List Char)
  | fault (reading skipping : Fault)

/-- What has been read of a string: its characters, last first, the first half of a surrogate pair
that waits for the second, and the flaw of the first half that stood alone. -/
structure StringState where
  sofar : List Char
  lead : Option Nat
  alone : Option Flaw

namespace StringState

/-- The flaw of the first half that stood alone, when `flaw` is the one of a half that still
waits. -/
def left (s : StringState) (flaw : Flaw) : Option Flaw :=
  s.alone.or (s.lead.map fun _ => flaw)

/-- A character that is not half of a pair. -/
def push (s : StringState) (c : Char) : StringState := ⟨c :: s.sofar, none, s.left .openPair⟩

/-- A code unit of a hexadecimal escape. -/
def unit (s : StringState) (n : Nat) : StringState :=
  if 0xD800 ≤ n ∧ n < 0xDC00 then ⟨s.sofar, some n, s.left .halfPair⟩
  else if 0xDC00 ≤ n ∧ n < 0xE000 then
    match s.lead with
    | some high => ⟨Char.ofNat (0x10000 + (high - 0xD800) * 0x400 + (n - 0xDC00)) :: s.sofar, none,
        s.alone⟩
    | none => ⟨s.sofar, none, s.alone.or (some .halfPair)⟩
  else ⟨Char.ofNat n :: s.sofar, none, s.left .halfPair⟩

def close (s : StringState) (rest : List Char) : StringRead :=
  .content (match s.left .openPair with
    | some flaw => .error (.malformed flaw)
    | none => .ok (String.ofList s.sofar.reverse)) rest

def bad (s : StringState) (f : Fault) : StringRead :=
  .fault ((s.alone.map .malformed).getD f) f

def cut (s : StringState) : StringRead := s.bad (.truncated .string)

end StringState

/-- The rest of a string after its opening quote. -/
def readString (s : StringState) : List Char → StringRead
  | [] => s.cut
  | '"' :: rest => s.close rest
  | '\\' :: 'u' :: a :: b :: c :: d :: rest =>
    match hex4? a b c d with
    | some n => readString (s.unit n) rest
    | none => s.bad (hexFault (a :: b :: c :: d :: rest))
  | '\\' :: 'u' :: rest => s.bad (hexFault rest)
  | ['\\'] => s.cut
  | '\\' :: e :: rest =>
    match shortEscape? e with
    | some c => readString (s.push c) rest
    | none => s.bad (.malformed .badEscape)
  | c :: rest =>
    if c.toNat < 0x20 then s.bad (.malformed .control) else readString (s.push c) rest

/-- The digits at the start of a text and the text after them. -/
def readDigits : List Char → List Nat × List Char
  | [] => ([], [])
  | c :: rest =>
    match digit? c with
    | some d => let (ds, tail) := readDigits rest; (d :: ds, tail)
    | none => ([], c :: rest)

/-- The fault of a number that needs a digit before `rest`. -/
def digitFault : List Char → Fault
  | [] => .truncated .value
  | _ :: _ => .malformed .badNumber

/-- A document and the text after it; no text when reading stops in it. -/
abbrev Result := Document × Option (List Char)

/-- A place where nothing can be read. -/
def stop (f : Fault) : Result := (.fault f f, none)

/-- The exponent of a number, if it has one. -/
def readExponent : List Char → Except Fault (Option (Bool × List Nat) × List Char)
  | c :: rest =>
    if c = 'e' || c = 'E' then
      let (down, tail) := match rest with
        | '-' :: r => (true, r)
        | '+' :: r => (false, r)
        | r => (false, r)
      match readDigits tail with
      | ([], r) => .error (digitFault r)
      | (ds, r) => .ok (some (down, ds), r)
    else .ok (none, c :: rest)
  | [] => .ok (none, [])

/-- The places of a number after its point, if it has one. -/
def readFraction : List Char → Except Fault (List Nat × List Char)
  | '.' :: rest =>
    match readDigits rest with
    | ([], r) => .error (digitFault r)
    | (ds, r) => .ok (ds, r)
  | cs => .ok ([], cs)

/-- The parts of a number and the text after it. -/
def readParts (negative : Bool) (cs : List Char) : Except Fault (Option Number × List Char) := do
  let (before, rest) ← match readDigits cs with
    | ([], r) => .error (digitFault r)
    | (0 :: _ :: _, _) => .error (.malformed .badNumber)
    | found => .ok found
  let (after, rest) ← readFraction rest
  let (exponent, rest) ← readExponent rest
  .ok (Number.ofDigits? negative before after exponent, rest)

def readNumber (negative : Bool) (cs : List Char) : Result :=
  match readParts negative cs with
  | .error f => stop f
  | .ok (some n, rest) => (.number (.ok n), some rest)
  | .ok (none, rest) => (.number (.error (.malformed .hugeNumber)), some rest)

/-- The rest of a word, of which the first letter has been read. -/
def readWord (word : Document) : List Char → List Char → Result
  | [], rest => (word, some rest)
  | _ :: _, [] => stop (.truncated .value)
  | w :: ws, c :: rest => if w = c then readWord word ws rest else stop (.malformed .noWord)

mutual

/-- A value, with at most `fuel` characters before its end. -/
def readValue : Nat → List Char → Result
  | 0, _ => stop (.malformed .noValue)
  | fuel + 1, cs =>
    match skipBlanks cs with
    | [] => stop (.truncated .value)
    | '"' :: rest =>
      match readString ⟨[], none, none⟩ rest with
      | .content text tail => (.string text, some tail)
      | .fault reading skipping => (.fault reading skipping, none)
    | '[' :: rest =>
      match skipBlanks rest with
      | [] => (.array [] (.broken (.truncated .list)), none)
      | ']' :: tail => (.array [] .closed, some tail)
      | tail =>
        let (items, ending, after) := readItems fuel tail
        (.array items ending, after)
    | '\x7b' :: rest =>
      match skipBlanks rest with
      | [] => (.object [] (.broken (.truncated .object)), none)
      | '\x7d' :: tail => (.object [] .closed, some tail)
      | '"' :: tail =>
        let (fields, ending, after) := readFields fuel tail
        (.object fields ending, after)
      | _ => (.object [] (.broken (.malformed .badKey)), none)
    | 'n' :: rest => readWord .null ['u', 'l', 'l'] rest
    | 't' :: rest => readWord (.bool true) ['r', 'u', 'e'] rest
    | 'f' :: rest => readWord (.bool false) ['a', 'l', 's', 'e'] rest
    | '-' :: rest => readNumber true rest
    | c :: rest => if c.isDigit then readNumber false (c :: rest) else stop (.malformed .noValue)

/-- The items of an array from one of them on. -/
def readItems : Nat → List Char → List Document × Ending × Option (List Char)
  | 0, _ => ([], .broken (.malformed .noValue), none)
  | fuel + 1, cs =>
    match readValue fuel cs with
    | (item, none) => ([item], .broken (.malformed .noListEnd), none)
    | (item, some rest) =>
      match skipBlanks rest with
      | [] => ([item], .broken (.truncated .list), none)
      | ']' :: tail => ([item], .closed, some tail)
      | ',' :: tail =>
        match skipBlanks tail with
        | [] => ([item], .dangling (.truncated .value), none)
        | ']' :: _ => ([item], .dangling (.malformed .trailingComma), none)
        | tail =>
          let (items, ending, after) := readItems fuel tail
          (item :: items, ending, after)
      | _ => ([item], .broken (.malformed .noListEnd), none)

/-- The fields of an object from the name of one of them on, after its opening quote. -/
def readFields :
    Nat → List Char → List (Except Fault String × Document) × Ending × Option (List Char)
  | 0, _ => ([], .broken (.malformed .noValue), none)
  | fuel + 1, cs =>
    match readString ⟨[], none, none⟩ cs with
    | .fault reading skipping => ([(.error reading, .fault reading skipping)], .closed, none)
    | .content name rest =>
      let (value, after) := match skipBlanks rest with
        | [] => stop (.truncated .object)
        | ':' :: tail => readValue fuel tail
        | _ => stop (.malformed .noColon)
      match after with
      | none => ([(name, value)], .broken (.malformed .noObjectEnd), none)
      | some rest =>
        match skipBlanks rest with
        | [] => ([(name, value)], .broken (.truncated .object), none)
        | '\x7d' :: tail => ([(name, value)], .closed, some tail)
        | ',' :: tail =>
          match skipBlanks tail with
          | [] => ([(name, value)], .dangling (.truncated .value), none)
          | '"' :: tail =>
            let (fields, ending, after) := readFields fuel tail
            ((name, value) :: fields, ending, after)
          | '\x7d' :: _ => ([(name, value)], .dangling (.malformed .trailingComma), none)
          | _ => ([(name, value)], .dangling (.malformed .badKey), none)
        | _ => ([(name, value)], .broken (.malformed .noObjectEnd), none)

end

end Reader

/-- A text as a document, and the fault of what stands after it. -/
def readDocument (text : String) : Document × Option Fault :=
  let cs := text.toList
  match Reader.readValue (cs.length + 1) cs with
  | (document, none) => (document, none)
  | (document, some rest) =>
    (document, if (Reader.skipBlanks rest).isEmpty then none else some (.malformed .trailing))

/-- The levels of arrays and objects that a value may have. -/
def depthLimit : Nat := 127

def ofText (text : String) : Except Fault Json := do
  let (document, after) := readDocument text
  let value ← document.value depthLimit
  match after with
  | none => .ok value
  | some f => .error f

end NatsFleet.Json
