/-!
Natural numbers of a fixed width, as texts in base ten.
-/
namespace NatsFleet.Text

/-- What is wrong with the text of a number. -/
inductive WholeFlaw where
  | empty
  | digit
  | tooLarge
  deriving DecidableEq

def WholeFlaw.message : WholeFlaw → String
  | .empty => "cannot parse integer from empty string"
  | .digit => "invalid digit found in string"
  | .tooLarge => "number too large to fit in target type"

def ofDigits (cs : List Char) : Nat := cs.foldl (fun n d => n * 10 + (d.toNat - '0'.toNat)) 0

def unsigned : List Char → List Char
  | '+' :: rest => rest
  | cs => cs

def whole (bits : Nat) (text : String) : Except WholeFlaw Nat :=
  let digits := unsigned text.toList
  if text.isEmpty then .error .empty
  else if digits.isEmpty || !digits.all Char.isDigit then .error .digit
  else if ofDigits digits < Nat.pow 2 bits then .ok (ofDigits digits)
  else .error .tooLarge

end NatsFleet.Text
