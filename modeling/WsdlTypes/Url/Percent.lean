import WsdlTypes.Text.Utf8
/-!
# Percent encoding

A character that may not stand in some part of a URL is written as its octets, each as a
percent sign and two hexadecimal digits. Which characters may not stand differs from part
to part; no part takes one beyond ASCII.
-/

namespace WsdlTypes.Url

/-- An upper-case hexadecimal digit. -/
def hexDigit (n : Nat) : Char := if n < 10 then Char.ofNat (0x30 + n) else Char.ofNat (0x37 + n)

/-- The value of a hexadecimal digit of either case. -/
def hexValue? (c : Char) : Option Nat :=
  if c.isDigit then some (c.toNat - 0x30)
  else if 'a' ≤ c && c ≤ 'f' then some (c.toNat - 0x57)
  else if 'A' ≤ c && c ≤ 'F' then some (c.toNat - 0x37)
  else none

/-- What no part of a URL takes as it is. -/
def isControl (c : Char) : Bool := c.toNat < 0x20 || 0x7f ≤ c.toNat

/-- What a fragment does not take as it is. -/
def outsideFragment (c : Char) : Bool := isControl c || [' ', '"', '<', '>', '\x60'].contains c

/-- What a query does not take as it is; a special scheme is stricter. -/
def outsideQuery (special : Bool) (c : Char) : Bool :=
  isControl c || [' ', '"', '#', '<', '>'].contains c || (special && c == '\'')

/-- What a path does not take as it is. -/
def outsidePath (c : Char) : Bool := outsideFragment c || ['#', '?', '\x7b', '\x7d'].contains c

/-- What a user's name or password does not take as it is. -/
def outsideUser (c : Char) : Bool :=
  outsidePath c || ['/', ':', ';', '=', '@', '[', '\\', ']', '^', '|'].contains c

/-- A text with some of its characters written as their octets. -/
def percentEncode (outside : Char → Bool) (cs : List Char) : List Char :=
  cs.flatMap fun c =>
    if outside c then
      (Text.octets c).flatMap fun b => ['%', hexDigit (b / 16), hexDigit (b % 16)]
    else [c]

/-- The octets of a text in which a percent sign and two digits stand for one. -/
def percentDecode : List Char → List Nat
  | '%' :: a :: b :: rest =>
    match hexValue? a, hexValue? b with
    | some high, some low => (high * 16 + low) :: percentDecode rest
    | _, _ => 0x25 :: percentDecode (a :: b :: rest)
  | c :: rest => Text.octets c ++ percentDecode rest
  | [] => []

end WsdlTypes.Url
