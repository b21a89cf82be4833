/-!
How alike two texts are, after Jaro: the share of their characters that stand in about the same
place, less those that stand in another order.
-/
namespace NatsFleet.Text

/-- A share: a number of parts of a whole. -/
structure Share where
  part : Nat
  whole : Nat

def Share.lt (a b : Share) : Bool := a.part * b.whole < b.part * a.whole

/-- Takes the first place in a window that holds the character and is free. -/
def takePlace (c : Char) (low high : Nat) : Nat → List (Char × Bool) → Option (List (Char × Bool))
  | _, [] => none
  | i, (d, taken) :: rest =>
    if i < high && low ≤ i && c = d && !taken then some ((d, true) :: rest)
    else (takePlace c low high (i + 1) rest).map ((d, taken) :: ·)

/-- The characters of the first text that find a place in the second, in order, and the places. -/
def matchPlaces (reach : Nat) :
    Nat → List Char → List (Char × Bool) → List Char × List (Char × Bool)
  | _, [], places => ([], places)
  | i, c :: rest, places =>
    match takePlace c (i - reach) (i + reach + 1) 0 places with
    | none => matchPlaces reach (i + 1) rest places
    | some places =>
      let (found, places) := matchPlaces reach (i + 1) rest places
      (c :: found, places)

def likeness (a b : String) : Share :=
  let (m, n) := (a.toList.length, b.toList.length)
  let reach := max m n / 2 - 1
  let (found, places) := matchPlaces reach 0 a.toList (b.toList.map fun c => (c, false))
  let others := (places.filter (·.2)).map (·.1)
  let k := found.length
  let swaps := ((found.zip others).filter fun p => p.1 ≠ p.2).length / 2
  if m = 0 && n = 0 then ⟨1, 1⟩
  else if k = 0 then ⟨0, 1⟩
  else ⟨k * k * n + k * k * m + (k - swaps) * m * n, 3 * k * m * n⟩

end NatsFleet.Text
