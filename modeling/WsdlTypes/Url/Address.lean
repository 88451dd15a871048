import WsdlTypes.Text.Split
import WsdlTypes.Text.Quoted
import WsdlTypes.Url.Percent
/-!
# Internet addresses

A host may be the address of a machine: four octets, which may be written in other ways
than the usual, or eight pieces of sixteen bits. An address has one written form, that of
`writeFour` or `writeEight`, in which the longest run of zeros among eight pieces is left
out.
-/

namespace WsdlTypes.Url

/-- The number that digits of a radix spell; one that they do not spell is none. -/
def digits? (radix : Nat) (cs : List Char) : Option Nat :=
  cs.foldlM (fun n c =>
    (hexValue? c).bind fun d => if d < radix then some (n * radix + d) else none)
    0

/-- A number in an address: decimal, octal behind a zero, or hexadecimal behind `0x`. -/
def addressNumber? (cs : List Char) : Option Nat :=
  match cs with
  | [] => none
  | '0' :: 'x' :: rest => digits? 16 rest
  | '0' :: 'X' :: rest => digits? 16 rest
  | '0' :: c :: rest => digits? 8 (c :: rest)
  | cs => digits? 10 cs

/-- The parts of a host between dots; a dot at the end ends the last part. -/
def addressParts (cs : List Char) : List (List Char) :=
  let parts := Text.segments '.' cs
  if parts.getLast? = some [] then parts.dropLast else parts

/-- Whether a host claims to be an address: its last part is a number. -/
def endsInNumber (cs : List Char) : Bool :=
  match (addressParts cs).getLast? with
  | some last => (!last.isEmpty && last.all Char.isDigit) || (addressNumber? last).isSome
  | none => false

/-- An address of four octets; the last number given fills the octets that are left. -/
def addressOfFour? (cs : List Char) : Option Nat := do
  let numbers ← (addressParts cs).mapM addressNumber?
  let last ← numbers.getLast?
  let before := numbers.dropLast
  if before.length ≤ 3 ∧ before.all (· < 256) ∧ last < Nat.pow 256 (4 - before.length) then
    let front := before.foldl (fun n octet => n * 256 + octet) 0
    some (front * Nat.pow 256 (4 - before.length) + last)
  else none

/-- Four octets in decimal, with dots. -/
def writeFour (address : Nat) : String :=
  Text.join "." ([3, 2, 1, 0].map fun i => toString (address / Nat.pow 256 i % 256))

/-- Four octets in decimal, of one to three digits each and without leading zeros. -/
def plainFour? (cs : List Char) : Option (Nat × Nat) := do
  let octets ← (Text.segments '.' cs).mapM fun part =>
    if part.isEmpty || !part.all Char.isDigit || 3 < part.length
        || (1 < part.length && part.head? == some '0') then none
    else (digits? 10 part).bind fun n => if n < 256 then some n else none
  match octets with
  | [a, b, c, d] => some (a * 256 + b, c * 256 + d)
  | _ => none

/-- The pieces of sixteen bits between colons; four octets may stand for the last two. -/
def pieces? : List (List Char) → Option (List Nat)
  | [] => some []
  | [last] =>
    if last.contains '.' then (plainFour? last).map fun (a, b) => [a, b]
    else if last.isEmpty || 4 < last.length then none
    else (digits? 16 last).map fun n => [n]
  | part :: rest =>
    if part.isEmpty || 4 < part.length then none
    else do
      let n ← digits? 16 part
      return n :: (← pieces? rest)

/-- The text before and after the first two colons in a row. -/
def splitColons? : List Char → Option (List Char × List Char)
  | ':' :: ':' :: rest => some ([], rest)
  | c :: rest => (splitColons? rest).map fun parts => (c :: parts.1, parts.2)
  | [] => none

/-- The pieces of a text that may be empty. -/
def piecesOf? (cs : List Char) : Option (List Nat) :=
  if cs.isEmpty then some [] else pieces? (Text.segments ':' cs)

/-- An address of eight pieces; two colons stand for the pieces that are left out. -/
def addressOfEight? (cs : List Char) : Option (List Nat) := do
  match splitColons? cs with
  | some (front, back) =>
    if front.contains '.' then none
    let before ← piecesOf? front
    let after ← piecesOf? back
    -- At least one piece is left out.
    let given := before.length + after.length
    if given < 8 then some (before ++ List.replicate (8 - given) 0 ++ after) else none
  | none =>
    let pieces ← piecesOf? cs
    if pieces.length = 8 then some pieces else none

/-- The length of the run of zeros at the front. -/
def zeros (pieces : List Nat) : Nat := (pieces.takeWhile (· = 0)).length

/-- Where the longest run of zeros starts, the first of several, and its length. -/
def longestZeros : List Nat → Nat × Nat
  | [] => (0, 0)
  | n :: rest =>
    let later := longestZeros rest
    let here := zeros (n :: rest)
    if later.2 ≤ here then (0, here) else (later.1 + 1, later.2)

/-- Eight pieces in hexadecimal with colons; two colons stand for the longest run of two or
more zeros. -/
def writeEight (pieces : List Nat) : String :=
  let (start, length) := longestZeros pieces
  let write (part : List Nat) := Text.join ":" (part.map Text.hexadecimal)
  if length < 2 then write pieces
  else write (pieces.take start) ++ "::" ++ write (pieces.drop (start + length))

end WsdlTypes.Url
