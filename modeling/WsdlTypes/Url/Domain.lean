import WsdlTypes.Text.Composed
import WsdlTypes.Text.Direction
import WsdlTypes.Text.Folding
import WsdlTypes.Text.Joining
import WsdlTypes.Url.Punycode
/-!
# Domain names

A domain name is a row of labels with dots between them. Names that are read alike are one
name, so a name is first folded and composed. Its labels may hold letters of any script as
long as nothing in them misleads a reader (`isLegible`, `fitsDirection`), and each one has
a writing in ASCII: itself, or the mark `xn--` and its code.
-/

namespace WsdlTypes.Url

/-- Whether a character is one of ASCII. -/
def isAscii (c : Char) : Bool := c.toNat < 0x80

/-- A name in the form in which names are compared, if all its characters stand in names. -/
def comparable? (cs : List Char) : Option (List Char) :=
  (cs.mapM Text.folded?).map fun forms => Text.composed forms.flatten

/-- The longest label beyond ASCII. -/
def maxLabel : Nat := 1000

/-- The longest code of a label. -/
def maxCode : Nat := 2000

/-- Whether characters can be read as a label: there are not too many, no mark comes first,
and joiners are where they join something. -/
def isLegible (label : List Char) : Bool :=
  label.length ≤ maxLabel && !label.head?.any Text.isMark && Text.joinersFit [] label

/-- The label that a code stands for. Only labels that need a code have one, and what is
behind it must be in the form in which names are compared. -/
def decodedLabel? (code : List Char) : Option (List Char) :=
  if code.getLast? = some '-' || maxCode < code.length then none
  else
    (Punycode.decode? code).filter fun label =>
      !label.all isAscii && label.all Text.isFolded && Text.composed label == label
        && isLegible label

/-- The label that a part of a comparable name stands for. -/
def label? (part : List Char) : Option (List Char) :=
  match part with
  | 'x' :: 'n' :: '-' :: '-' :: code => decodedLabel? code
  | part => if part.all isAscii || isLegible part then some part else none

/-- A label in ASCII. -/
def writeLabel (label : List Char) : List Char :=
  if label.all isAscii then label else ['x', 'n', '-', '-'] ++ Punycode.encode label

/-- A domain name in ASCII. Where one of its labels is written from right to left, each of
them keeps to one direction. -/
def asciiName? (cs : List Char) : Option (List Char) := do
  let labels ← (Text.segments '.' (← comparable? cs)).mapM label?
  if labels.any (·.any Text.isRightward) && !labels.all Text.fitsDirection then none
  else some (List.intercalate ['.'] (labels.map writeLabel))

end WsdlTypes.Url
