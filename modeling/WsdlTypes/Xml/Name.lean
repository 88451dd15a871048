import WsdlTypes.Text.Ranges
/-!
# Names in documents

Which characters may stand in a document, in a name, and at a name's start; and the two
parts of a name with a namespace prefix.
-/

namespace WsdlTypes.Xml

/-- White space between the parts of a tag. -/
def isSpace (c : Char) : Bool := c == ' ' || c == '\t' || c == '\n' || c == '\r'

/-- Whether a character may stand in a document at all. -/
def isXmlChar (c : Char) : Bool :=
  if c.toNat < 0x20 then isSpace c else c.toNat ≠ 0xfffe && c.toNat ≠ 0xffff

/-- The characters beyond ASCII that may start a name. -/
def nameStartRanges : Text.Ranges :=
  [(0xc0, 0xd6), (0xd8, 0xf6), (0xf8, 0x2ff), (0x370, 0x37d), (0x37f, 0x1fff),
    (0x200c, 0x200d), (0x2070, 0x218f), (0x2c00, 0x2fef), (0x3001, 0xd7ff), (0xf900, 0xfdcf),
    (0xfdf0, 0xfffd), (0x10000, 0xeffff)]

/-- The further characters beyond ASCII that may stand inside a name. -/
def nameInnerRanges : Text.Ranges := [(0xb7, 0xb7), (0x300, 0x36f), (0x203f, 0x2040)]

/-- Whether a character may start a name. -/
def isNameStart (c : Char) : Bool :=
  if c.toNat ≤ 0x80 then c.isAlpha || c == ':' || c == '_' else nameStartRanges.contains c

/-- Whether a character may stand in a name. -/
def isNameChar (c : Char) : Bool :=
  if c.toNat ≤ 0x80 then c.isAlphanum || c == ':' || c == '_' || c == '-' || c == '.'
  else nameStartRanges.contains c || nameInnerRanges.contains c

/-- A name as it is written: a namespace prefix, empty where there is none, and the part
behind the colon. -/
structure Name where
  nsPrefix : String
  name : String
deriving DecidableEq, Repr, Inhabited

namespace Name

/-- The name with its prefix in front. -/
def render (n : Name) : String :=
  if n.nsPrefix.isEmpty then n.name else n.nsPrefix ++ ":" ++ n.name

/-- The name that a run of name characters spells. Two colons, nothing behind the colon,
or a part that starts with a character no name starts with make it none. -/
def ofChars? (cs : List Char) : Option Name :=
  let front := cs.takeWhile (· ≠ ':')
  let parts :=
    match cs.dropWhile (· ≠ ':') with
    | [] => ([], front)
    | _ :: back => (front, back)
  let starts (part : List Char) : Bool :=
    match part with
    | [] => true
    | c :: _ => isNameStart c
  if parts.2.contains ':' || parts.2.isEmpty || !starts parts.1 || !starts parts.2 then none
  else some ⟨String.ofList parts.1, String.ofList parts.2⟩

end Name

end WsdlTypes.Xml
