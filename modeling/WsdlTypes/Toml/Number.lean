import WsdlTypes.Text.Split
import WsdlTypes.Toml.Value
/-!
# Numbers and points in time

Values that are written without quotes or brackets are told apart by their spelling alone:
truth values, numbers, dates and times. Digits may be grouped by single underscores. An
integer must fit into 64 bits, a number with a fraction must not be too large for a double.
-/

namespace WsdlTypes.Toml.Number

/-- The value of a hexadecimal digit, or of one of a smaller base. -/
def digit? (base : Nat) (c : Char) : Option Nat :=
  let value :=
    if c.isDigit then c.toNat - '0'.toNat
    else if 'a' ≤ c ∧ c ≤ 'f' then c.toNat - 'a'.toNat + 10
    else if 'A' ≤ c ∧ c ≤ 'F' then c.toNat - 'A'.toNat + 10
    else 16
  if value < base then some value else none

/-- The digits of a numeral, grouped by single underscores or not. -/
def digits? (base : Nat) (cs : List Char) : Option (List Nat) :=
  let groups := Text.segments '_' cs
  if groups.any List.isEmpty then none else groups.flatten.mapM (digit? base)

/-- The number that digits stand for. -/
def ofDigits (base : Nat) (digits : List Nat) : Nat := digits.foldl (base * · + ·) 0

/-- A sign and what follows it. -/
def signed (cs : List Char) : Bool × List Char :=
  match cs with
  | '-' :: rest => (true, rest)
  | '+' :: rest => (false, rest)
  | _ => (false, cs)

/-- Decimal digits without a needless zero in front. -/
def wholeDigits? (cs : List Char) : Option (List Nat) :=
  (digits? 10 cs).filter fun digits => digits.length = 1 || digits.head? != some 0

/-- The integer that a spelling stands for. -/
def integer? (cs : List Char) : Option Int :=
  let based (base : Nat) (rest : List Char) : Option Int :=
    (digits? base rest).map fun digits => Int.ofNat (ofDigits base digits)
  let value? :=
    match cs with
    | '0' :: 'x' :: rest => based 16 rest
    | '0' :: 'o' :: rest => based 8 rest
    | '0' :: 'b' :: rest => based 2 rest
    | _ =>
      let (negative, rest) := signed cs
      (wholeDigits? rest).map fun digits =>
        if negative then - Int.ofNat (ofDigits 10 digits) else Int.ofNat (ofDigits 10 digits)
  value?.filter fun value => -0x8000000000000000 ≤ value ∧ value < 0x8000000000000000

/-- The least number that no double is near enough to. -/
def doubleBound : Nat := Nat.pow 2 1024 - Nat.pow 2 970

/-- Whether a number of some digits, times a power of ten, is too large for a double. -/
def isTooLarge (digits : List Nat) (exponent : Int) : Bool :=
  let leading := digits.dropWhile (· = 0)
  let value := ofDigits 10 leading
  let magnitude := Int.ofNat leading.length + exponent
  if leading.isEmpty ∨ magnitude < 309 then false
  else if 309 < magnitude then true
  else if 0 ≤ exponent then doubleBound ≤ value * Nat.pow 10 exponent.toNat
  else doubleBound * Nat.pow 10 (-exponent).toNat ≤ value

/-- The exponent that follows the letter for it. -/
def exponent? (cs : List Char) : Option Int :=
  let (negative, rest) := signed cs
  (digits? 10 rest).map fun digits =>
    if negative then - Int.ofNat (ofDigits 10 digits) else Int.ofNat (ofDigits 10 digits)

/-- Whether a spelling stands for a number with a fraction or an exponent. -/
def isFloat (cs : List Char) : Bool :=
  let (negative, rest) := signed cs
  if rest = ['i', 'n', 'f'] ∨ rest = ['n', 'a', 'n'] then true
  else
    let isMark (c : Char) : Bool := c == 'e' || c == 'E'
    let mantissa := rest.takeWhile (!isMark ·)
    let behind := rest.dropWhile (!isMark ·)
    let whole := mantissa.takeWhile (· ≠ '.')
    let fraction := mantissa.dropWhile (· ≠ '.')
    let parts? := do
      let wholePart ← wholeDigits? whole
      let fractionPart ← if fraction.isEmpty then some [] else digits? 10 (fraction.drop 1)
      let exponent ← if behind.isEmpty then some 0 else exponent? (behind.drop 1)
      return (wholePart ++ fractionPart, exponent - Int.ofNat fractionPart.length)
    -- Without fraction and exponent it is an integer.
    if fraction.isEmpty ∧ behind.isEmpty then false
    else parts?.any fun (digits, exponent) => negative || !isTooLarge digits exponent

/-- A number of some digits that lies in a range, and what follows. -/
def field? (width low high : Nat) (cs : List Char) : Option (Nat × List Char) := do
  let digits ← (cs.take width).mapM (digit? 10)
  let value := ofDigits 10 digits
  if digits.length = width ∧ low ≤ value ∧ value ≤ high then some (value, cs.drop width)
  else none

/-- What follows a character. -/
def behind? (c : Char) (cs : List Char) : Option (List Char) :=
  if cs.head? = some c then some (cs.drop 1) else none

/-- The number of days in a month. -/
def daysIn (year month : Nat) : Nat :=
  if month = 2 then
    if year % 4 = 0 ∧ (year % 100 ≠ 0 ∨ year % 400 = 0) then 29 else 28
  else if month = 4 ∨ month = 6 ∨ month = 9 ∨ month = 11 then 30
  else 31

/-- What follows a date. -/
def behindDate? (cs : List Char) : Option (List Char) := do
  let (year, cs) ← field? 4 0 9999 cs
  let (month, cs) ← field? 2 1 12 (← behind? '-' cs)
  let (_, cs) ← field? 2 1 (daysIn year month) (← behind? '-' cs)
  return cs

/-- What follows a time of day, which may have a fraction. -/
def behindTime? (cs : List Char) : Option (List Char) := do
  let (_, cs) ← field? 2 0 23 cs
  let (_, cs) ← field? 2 0 59 (← behind? ':' cs)
  let (_, cs) ← field? 2 0 60 (← behind? ':' cs)
  match cs with
  | '.' :: rest =>
    if (rest.takeWhile Char.isDigit).isEmpty then none
    else some (rest.dropWhile Char.isDigit)
  | _ => some cs

/-- Whether a text is the distance of a time zone, or nothing. -/
def isOffset (cs : List Char) : Bool :=
  match cs with
  | [] | ['Z'] | ['z'] => true
  | sign :: rest =>
    let rest? := do
      let (_, rest) ← field? 2 0 23 rest
      let (_, rest) ← field? 2 0 59 (← behind? ':' rest)
      return rest
    (sign == '+' || sign == '-') && rest? == some []

/-- Whether a text is a time of day behind a date. -/
def isZonedTime (cs : List Char) : Bool := (behindTime? cs).any isOffset

/-- Whether a text is a date. -/
def isDate (cs : List Char) : Bool := behindDate? cs == some []

/-- Whether a text is a date, a time, or both without a blank between. -/
def isMoment (cs : List Char) : Bool :=
  behindTime? cs == some [] ||
    match behindDate? cs with
    | some [] => true
    | some (mark :: rest) => (mark == 'T' || mark == 't') && isZonedTime rest
    | none => false

/-- The value of a spelling without quotes or brackets. -/
def value? (cs : List Char) : Option Value :=
  if cs = "true".toList then some (.boolean true)
  else if cs = "false".toList then some (.boolean false)
  else if isMoment cs then some (.moment (String.ofList cs))
  else if isFloat cs then some (.float (String.ofList cs))
  else (integer? cs).map .integer

end WsdlTypes.Toml.Number
