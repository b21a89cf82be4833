/-!
Numbers of a JSON text. A whole number that fits 64 bits stays whole; every other number is a
binary fraction, computed from a 64-bit significand and a power of ten.
-/
namespace NatsFleet.Json

/-- A number: a whole one between `-2^63` and `2^64 - 1`, or a real one. -/
inductive Number where
  | whole (n : Int)
  | real (x : Float)

namespace Number

/-- The value of a list of decimal digits, as far as it fits 64 bits, continuing `significand`; with
it the digits that no longer fit. -/
def absorb (significand : Nat) : List Nat → Nat × List Nat
  | [] => (significand, [])
  | d :: rest =>
    if significand * 10 + d < Nat.pow 2 64 then absorb (significand * 10 + d) rest
    else (significand, d :: rest)

/-- `x` times ten to the power `e`; `none` when the result is beyond every finite number. -/
def scale (x : Float) (e : Int) : Option Float :=
  if e.natAbs ≤ 308 then
    if 0 ≤ e then
      let y := x * Float.ofScientific 1 false e.natAbs
      if y.isInf then none else some y
    else some (x / Float.ofScientific 1 false e.natAbs)
  else if x == 0 then some x
  else if 0 ≤ e then none
  else scale (x / Float.ofScientific 1 false 308) (e + 308)
termination_by e.natAbs

/-- The real number of a significand and a power of ten. -/
def scaled (negative : Bool) (significand : Nat) (e : Int) : Option Number :=
  (scale significand.toUInt64.toFloat e).map fun x => real (if negative then -x else x)

/-- The power of ten that an exponent's digits name, as far as it fits 32 bits. -/
def exponentValue (digits : List Nat) : Option Nat :=
  let n := digits.foldl (fun n d => min (n * 10 + d) (Nat.pow 2 32)) 0
  if n < Nat.pow 2 31 then some n else none

/-- A significand, a power of ten and an exponent as it is written: its sign and its digits. -/
def withExponent (negative : Bool) (significand : Nat) (e : Int) :
    Option (Bool × List Nat) → Option Number
  | none => scaled negative significand e
  | some (down, digits) =>
    match exponentValue digits with
    | some n => scaled negative significand (if down then e - n else e + n)
    | none =>
      if significand ≠ 0 && !down then none else some (real (if negative then -0.0 else 0.0))

/-- The number that is written with these digits before the point, after the point and in the
exponent; `none` when it is beyond every finite number. -/
def ofDigits? (negative : Bool) (before after : List Nat) (exponent : Option (Bool × List Nat)) :
    Option Number :=
  let (head, dropped) := absorb 0 before
  let (significand, lost) := absorb head after
  if dropped.isEmpty && after.isEmpty && exponent.isNone then
    if !negative then some (whole head)
    else if 0 < head && head ≤ Nat.pow 2 63 then some (whole (-head))
    else some (real (-head.toUInt64.toFloat))
  else
    withExponent negative significand (dropped.length - (after.length - lost.length : Nat)) exponent

end Number

end NatsFleet.Json
