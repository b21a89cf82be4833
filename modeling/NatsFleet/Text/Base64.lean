/-!
Base 64 with the standard alphabet. A text is whole groups of four, of which the last may be padded,
and the bits that padding cuts off are zero.
-/
namespace NatsFleet.Text

/-- What is wrong with a text in base 64. -/
inductive Base64Flaw where
  | symbol (byte : UInt8) (offset : Nat)
  | lastSymbol (byte : UInt8) (offset : Nat)
  | length (n : Nat)
  | padding
  deriving DecidableEq

def Base64Flaw.message : Base64Flaw → String
  | .symbol byte offset =>
    "Invalid symbol " ++ toString byte ++ ", offset " ++ toString offset ++ "."
  | .lastSymbol byte offset =>
    "Invalid last symbol " ++ toString byte ++ ", offset " ++ toString offset ++ "."
  | .length n => "Invalid input length: " ++ toString n
  | .padding => "Invalid padding"

def base64Digit? (b : UInt8) : Option Nat :=
  let n := b.toNat
  if 65 ≤ n ∧ n ≤ 90 then some (n - 65)
  else if 97 ≤ n ∧ n ≤ 122 then some (n - 71)
  else if 48 ≤ n ∧ n ≤ 57 then some (n + 4)
  else if n = 43 then some 62
  else if n = 47 then some 63
  else none

/-- The first symbol that is not in the alphabet. -/
def strangeSymbol? : Nat → List UInt8 → Option Base64Flaw
  | _, [] => none
  | offset, b :: rest =>
    if (base64Digit? b).isNone then some (.symbol b offset) else strangeSymbol? (offset + 1) rest

/-- What is wrong with a text in base 64, if anything is. -/
def base64Flaw? (text : String) : Option Base64Flaw :=
  let bytes := text.toUTF8.toList
  let pads := min 2 (bytes.reverse.takeWhile (· = 61)).length
  let body := bytes.take (bytes.length - pads)
  match strangeSymbol? 0 body with
  | some flaw => some flaw
  | none =>
    if body.length % 4 = 1 then some (.length bytes.length)
    else if (body.length + pads) % 4 ≠ 0 then some .padding
    else
      let spare := if pads = 2 then 16 else if pads = 1 then 4 else 1
      match body.getLast? with
      | none => none
      | some b =>
        if ((base64Digit? b).getD 0) % spare = 0 then none
        else some (.lastSymbol b (body.length - 1))

end NatsFleet.Text
