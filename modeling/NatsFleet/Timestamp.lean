/-!
Moments of universal time, and their RFC 3339 text.
-/
namespace NatsFleet

/-- A moment: whole seconds since the start of 1970 and the nanoseconds after them. -/
structure Timestamp where
  seconds : Int
  nanos : Nat := 0
  deriving DecidableEq

namespace Timestamp

def padded (width n : Nat) : String :=
  let digits := Nat.toDigits 10 n
  String.ofList (List.replicate (width - digits.length) '0' ++ digits)

/-- The year, month and day of a day counted from the start of 1970, in the Gregorian calendar. The
count runs over eras of 400 years, which start in March. -/
def civil (day : Int) : Int × Nat × Nat :=
  let z := day + 719468
  let era := z.fdiv 146097
  let dayOfEra := (z - era * 146097).toNat
  let yearOfEra := (dayOfEra - dayOfEra / 1460 + dayOfEra / 36524 - dayOfEra / 146096) / 365
  let dayOfYear := dayOfEra - (365 * yearOfEra + yearOfEra / 4 - yearOfEra / 100)
  let mp := (5 * dayOfYear + 2) / 153
  let month := if mp < 10 then mp + 3 else mp - 9
  let year := (yearOfEra : Int) + era * 400 + (if month ≤ 2 then 1 else 0)
  (year, month, dayOfYear - (153 * mp + 2) / 5 + 1)

/-- The day, counted from the start of 1970, of a year, month and day. -/
def dayOf (year : Int) (month day : Nat) : Int :=
  let y := if month ≤ 2 then year - 1 else year
  let era := y.fdiv 400
  let yearOfEra := (y - era * 400).toNat
  let mp := if 2 < month then month - 3 else month + 9
  let dayOfYear := (153 * mp + 2) / 5 + day - 1
  let dayOfEra := yearOfEra * 365 + yearOfEra / 4 - yearOfEra / 100 + dayOfYear
  era * 146097 + dayOfEra - 719468

/-- The number of days of a month. -/
def daysIn (year : Int) (month : Nat) : Nat :=
  if month = 2 then
    (if year % 4 = 0 ∧ (year % 100 ≠ 0 ∨ year % 400 = 0) then 29 else 28)
  else if month ∈ [4, 6, 9, 11] then 30 else 31

/-- The date and the time of day of a moment, to the second. -/
def dateTime (t : Timestamp) : String :=
  let (year, month, day) := civil (t.seconds.fdiv 86400)
  let second := (t.seconds.fmod 86400).toNat
  padded 4 year.toNat ++ "-" ++ padded 2 month ++ "-" ++ padded 2 day ++ "T" ++
    padded 2 (second / 3600) ++ ":" ++ padded 2 (second / 60 % 60) ++ ":" ++ padded 2 (second % 60)

/-- The text to the second, as object metadata has it. -/
def short (t : Timestamp) : String := t.dateTime ++ "Z"

/-- The fraction of a second, in steps of three digits as far as it needs them. -/
def fraction (nanos : Nat) : String :=
  if nanos = 0 then ""
  else if nanos % 1000000 = 0 then "." ++ padded 3 (nanos / 1000000)
  else if nanos % 1000 = 0 then "." ++ padded 6 (nanos / 1000)
  else "." ++ padded 9 nanos

/-- The full text, as conditions have it. -/
def full (t : Timestamp) : String := t.dateTime ++ fraction t.nanos ++ "+00:00"

/-- What can be wrong with the text of a moment. -/
inductive ReadError where
  | tooShort
  | invalid
  | outOfRange
  | trailing
  deriving DecidableEq

/-- The words for what is wrong with the text of a moment. -/
def ReadError.message : ReadError → String
  | .tooShort => "premature end of input"
  | .invalid => "input contains invalid characters"
  | .outOfRange => "input is out of range"
  | .trailing => "trailing input"

/-- A number of exactly `n` digits at the start of a text. -/
def readNumber : Nat → Nat → List Char → Except ReadError (Nat × List Char)
  | 0, sofar, cs => .ok (sofar, cs)
  | _ + 1, _, [] => .error .tooShort
  | n + 1, sofar, c :: cs =>
    if c.isDigit then readNumber n (sofar * 10 + (c.toNat - '0'.toNat)) cs else .error .invalid

/-- One of several characters at the start of a text. -/
def readOne (allowed : List Char) : List Char → Except ReadError (List Char)
  | [] => .error .tooShort
  | c :: cs => if c ∈ allowed then .ok cs else .error .invalid

/-- A number that must lie between two bounds. -/
def bounded (low high n : Nat) : Except ReadError Nat :=
  if low ≤ n ∧ n ≤ high then .ok n else .error .outOfRange

/-- The nanoseconds of a fraction of a second, if there is one. -/
def readFraction : List Char → Except ReadError (Nat × List Char)
  | '.' :: cs =>
    let digits := cs.takeWhile Char.isDigit
    if digits.isEmpty then .error (if cs.isEmpty then .tooShort else .invalid)
    else
      let kept := digits.take 9
      let n := kept.foldl (fun n c => n * 10 + (c.toNat - '0'.toNat)) 0
      .ok (n * Nat.pow 10 (9 - kept.length), cs.dropWhile Char.isDigit)
  | cs => .ok (0, cs)

/-- The offset from universal time, in seconds. -/
def readOffset : List Char → Except ReadError (Int × List Char)
  | [] => .error .tooShort
  | c :: cs =>
    if c = 'Z' ∨ c = 'z' then .ok (0, cs)
    else if c = '+' ∨ c = '-' then do
      let (hours, cs) ← readNumber 2 0 cs
      let (minutes, cs) ← readNumber 2 0 (match cs with | ':' :: r => r | r => r)
      let minutes ← bounded 0 59 minutes
      let n : Int := hours * 3600 + minutes * 60
      .ok (if c = '-' then -n else n, cs)
    else .error .invalid

/-- The moment of an RFC 3339 text. -/
def read (text : String) : Except ReadError Timestamp := do
  let (year, cs) ← readNumber 4 0 text.toList
  let cs ← readOne ['-'] cs
  let (month, cs) ← readNumber 2 0 cs
  let month ← bounded 1 12 month
  let cs ← readOne ['-'] cs
  let (day, cs) ← readNumber 2 0 cs
  let cs ← readOne ['T', 't', ' '] cs
  let (hour, cs) ← readNumber 2 0 cs
  let hour ← bounded 0 23 hour
  let cs ← readOne [':'] cs
  let (minute, cs) ← readNumber 2 0 cs
  let minute ← bounded 0 59 minute
  let cs ← readOne [':'] cs
  let (second, cs) ← readNumber 2 0 cs
  let second ← bounded 0 60 second
  let (nanos, cs) ← readFraction cs
  let (offset, cs) ← readOffset cs
  if !cs.isEmpty then .error .trailing
  else
    let day ← bounded 1 (daysIn year month) day
    .ok ⟨dayOf year month day * 86400 + hour * 3600 + minute * 60 + second - offset, nanos⟩

end Timestamp

end NatsFleet
