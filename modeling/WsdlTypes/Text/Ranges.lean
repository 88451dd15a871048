/-!
# Ranges of code points

Properties of characters that a standard defines by table are kept as lists of
inclusive ranges. A list says which code points it holds (`Ranges.contains`); nothing
else about its layout is used.
-/

namespace WsdlTypes.Text

/-- A set of code points, as inclusive ranges. -/
abbrev Ranges := List (Nat × Nat)

/-- Whether one of the ranges holds the character's code point. -/
def Ranges.contains (ranges : Ranges) (c : Char) : Bool :=
  ranges.any fun range => range.1 ≤ c.toNat && c.toNat ≤ range.2

end WsdlTypes.Text
