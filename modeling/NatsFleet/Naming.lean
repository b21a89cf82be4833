/-!
Names for new pods: the name of the cluster and five random letters. The random source is a stream
of draws, of which each letter takes one.
-/
namespace NatsFleet

/-- A random source: a stream of draws, and how many of them have been taken. -/
structure Draws where
  stream : Nat → Nat
  taken : Nat := 0

namespace Draws

def next (d : Draws) : Nat × Draws := (d.stream d.taken, { d with taken := d.taken + 1 })

/-- The states of a linear congruential generator. -/
def generator (seed : Nat) : Nat → Nat
  | 0 => seed % Nat.pow 2 31
  | n + 1 => (generator seed n * 1103515245 + 12345) % Nat.pow 2 31

/-- The draws of a list, and after them those of a generator. -/
def seeded (given : List Nat) (seed : Nat) : Draws where
  stream n :=
    match given[n]? with
    | some draw => draw
    | none => generator seed (n - given.length + 1) / Nat.pow 2 16

end Draws

namespace Naming

/-- The letters of a suffix: no vowels and no digits that look like letters. -/
def alphabet : List Char := "bcdfghjklmnpqrstvwxz2456789".toList

/-- The number of letters of a suffix. -/
def suffixLength : Nat := 5

def letter (draw : Nat) : Char := alphabet.getD (draw % alphabet.length) 'b'

def letters : Nat → Draws → List Char × Draws
  | 0, d => ([], d)
  | n + 1, d =>
    let (draw, d) := d.next
    let (rest, d) := letters n d
    (letter draw :: rest, d)

/-- The name of a cluster followed by a suffix. -/
def withSuffix (cluster : String) (suffix : List Char) : String :=
  cluster ++ "-" ++ String.ofList suffix

def generate (cluster : String) (d : Draws) : String × Draws :=
  let (suffix, d) := letters suffixLength d
  (withSuffix cluster suffix, d)

/-- `count` fresh names, different from each other and from the names in `taken`, in the order in
which they are drawn. At most `fuel` names are drawn; `none` when that is not enough. -/
def plan (cluster : String) : Nat → List String → Nat → Draws → Option (List String × Draws)
  | _, _, 0, d => some ([], d)
  | 0, _, _ + 1, _ => none
  | fuel + 1, taken, count + 1, d =>
    let (name, d) := generate cluster d
    if name ∈ taken then plan cluster fuel taken (count + 1) d
    else do
      let (names, d) ← plan cluster fuel (name :: taken) count d
      some (name :: names, d)

end Naming

end NatsFleet
