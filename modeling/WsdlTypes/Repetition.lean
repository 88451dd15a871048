import WsdlTypes.Text.Blank
/-!
# Repetition

How often an element may occur decides whether it is one value or many. The largest number
of occurrences is written as a numeral or as `unbounded`; what is neither says nothing.
-/

namespace WsdlTypes.Repetition

/-- The largest number that is understood. -/
def numeralBound : Nat := 0x10000000000000000

/-- The number that decimal digits stand for, if there are any. -/
def ofDigits? (digits : List Char) : Option Nat :=
  if digits.isEmpty || !digits.all Char.isDigit then none
  else some (digits.foldl (fun n c => 10 * n + (c.toNat - '0'.toNat)) 0)

/-- The number that a numeral stands for: digits, after a plus sign or not. -/
def ofNumeral? (text : String) : Option Nat :=
  let digits :=
    match text.toList with
    | '+' :: rest => rest
    | digits => digits
  (ofDigits? digits).filter (· < numeralBound)

/-- Whether a largest number of occurrences allows more than one. -/
def isMany (occurrences : Option String) : Bool :=
  match occurrences with
  | none => false
  | some text => text == "unbounded" || (ofNumeral? (Text.trim text)).any (1 < ·)

end WsdlTypes.Repetition
