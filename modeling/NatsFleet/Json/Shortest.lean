/-!
The shortest decimal of a binary fraction: the fewest digits that read back as the same number, and
of those the digits nearest to it.
-/
namespace NatsFleet.Json.Shortest

/-- A positive binary fraction `mantissa * 2 ^ exponent`. `lowest` marks the smallest mantissa of
its binade, below which the neighbours lie closer. -/
structure Fraction where
  mantissa : Nat
  exponent : Int
  lowest : Bool

/-- The parts of a finite number, its sign apart. -/
def Fraction.ofFloat (x : Float) : Fraction :=
  let bits : Nat := x.toBits.toNat
  let field : Nat := bits / Nat.pow 2 52 % Nat.pow 2 11
  let low : Nat := bits % Nat.pow 2 52
  if field = 0 then ⟨low, -1074, false⟩
  else ⟨Nat.pow 2 52 + low, (field : Int) - 1075, decide (low = 0 ∧ 1 < field)⟩

/-- `a * 2 ^ p` compared with `b * 10 ^ k` by cross multiplication, as two natural numbers. -/
def crossed (a : Nat) (p : Int) (b : Nat) (k : Int) : Nat × Nat :=
  (a * Nat.pow 2 p.toNat * Nat.pow 10 (-k).toNat, b * Nat.pow 10 k.toNat * Nat.pow 2 (-p).toNat)

/-- A decimal `digits * 10 ^ k` lies in the interval of the reals that round to the fraction. -/
def Fraction.admits (f : Fraction) (digits : Nat) (k : Int) : Bool :=
  let low := if f.lowest then crossed (4 * f.mantissa - 1) (f.exponent - 2) digits k
    else crossed (2 * f.mantissa - 1) (f.exponent - 1) digits k
  let high := crossed (2 * f.mantissa + 1) (f.exponent - 1) digits k
  if f.mantissa % 2 = 0 then low.1 ≤ low.2 && high.2 ≤ high.1
  else low.1 < low.2 && high.2 < high.1

/-- The decimal digits below the fraction on the grid of `10 ^ k`, and twice the remainder beside
the unit, which tells which neighbour is nearer. -/
def Fraction.floorOn (f : Fraction) (k : Int) : Nat × Nat × Nat :=
  let (num, den) := crossed f.mantissa f.exponent 1 k
  (num / den, 2 * (num % den), den)

/-- The digits on the grid of `10 ^ k` that read back as the fraction, the nearer of two. -/
def Fraction.on? (f : Fraction) (k : Int) : Option Nat :=
  let (below, twice, unit) := f.floorOn k
  let nearer := if twice < unit || (twice = unit && below % 2 = 0) then below else below + 1
  let other := if nearer = below then below + 1 else below
  if f.admits nearer k then some nearer
  else if f.admits other k then some other
  else none

/-- The digits and the power of ten of the first grid, from coarse to fine, that has a decimal of
the fraction. -/
def Fraction.search (f : Fraction) : Nat → Int → Nat × Int
  | 0, k => ((f.on? k).getD 0, k)
  | n + 1, k =>
    match f.on? k with
    | some 0 | none => search f n (k - 1)
    | some digits => (digits, k)

def trim : Nat → Nat → Int → Nat × Int
  | 0, d, k => (d, k)
  | n + 1, d, k => if d ≠ 0 && d % 10 = 0 then trim n (d / 10) (k + 1) else (d, k)

/-- The digits and the power of ten of the shortest decimal of a finite number other than zero. -/
def decimal (x : Float) : Nat × Int :=
  let f := Fraction.ofFloat x
  let top : Int := ((Nat.log2 f.mantissa + 1 : Nat) + f.exponent) * 30103 / 100000 + 1
  let (d, k) := f.search 30 top
  trim 20 d k

/-- The sign of a number as it is written. -/
def sign (x : Float) : String :=
  if x.toBits.toNat < Nat.pow 2 63 then "" else "-"

/-- The decimal `d * 10 ^ k` without an exponent, with at least one place after the point. -/
def point (d : Nat) (k : Int) : List Char :=
  let digits := Nat.toDigits 10 d
  if 0 ≤ k then digits ++ List.replicate k.toNat '0' ++ ['.', '0']
  else
    let places := (-k).toNat
    let padded := List.replicate (places + 1 - digits.length) '0' ++ digits
    padded.take (padded.length - places) ++ '.' :: padded.drop (padded.length - places)

/-- A finite number as a JSON text has it: without an exponent between `10 ^ -5` and `10 ^ 16`. -/
def written (x : Float) : String :=
  if x == 0 then sign x ++ "0.0"
  else
    let (d, k) := decimal x
    let digits := Nat.toDigits 10 d
    let magnitude := k + digits.length
    if -5 < magnitude && magnitude ≤ 16 then sign x ++ String.ofList (point d k)
    else
      let fraction := if digits.length = 1 then digits else digits.take 1 ++ '.' :: digits.drop 1
      sign x ++ String.ofList fraction ++ "e" ++ toString (magnitude - 1)

end NatsFleet.Json.Shortest
