import WsdlTypes.Text.Position
import WsdlTypes.Text.Quoted
import WsdlTypes.Text.Utf8
/-!
# What makes a text no document

The causes for which a text is refused, each with the position it is noticed at where it
has one. A refused text has one cause: the first that a single pass from front to back
meets.
-/

namespace WsdlTypes.Xml

open Text (Position)

/-- Why a text is no document. -/
inductive Error where
  | noRoot
  | unclosedRoot
  | unexpectedEnd
  | doctypeRefused
  | unknownToken (p : Position)
  | invalidName (p : Position)
  | mismatchedTag (expected found : String) (p : Position)
  | strayClosingTag (p : Position)
  | duplicateAttribute (name : String) (p : Position)
  | duplicatePrefix (name : String) (p : Position)
  | unknownPrefix (name : String) (p : Position)
  | reservedElementPrefix (p : Position)
  | wrongXmlUri (p : Position)
  | reservedXmlUri (p : Position)
  | reservedXmlnsUri (p : Position)
  | malformedReference (p : Position)
  | unknownEntity (name : String) (p : Position)
  | entityLoop (p : Position)
  | bareLessThan (p : Position)
  /-- One of the described characters was due, another one came. -/
  | unexpectedChar (expected : String) (found : Char) (p : Position)
  /-- The given text was due. -/
  | missingText (expected : String) (p : Position)
  | doubleHyphen (p : Position)
  | strayCdataEnd (p : Position)
  | misplacedDeclaration (p : Position)
  | invalidExternalId (p : Position)
  | notXmlChar (c : Char) (p : Position)
deriving DecidableEq, Repr

namespace Error

/-- The first octet of a character, shown as the character of that number. -/
def leadingOctet (c : Char) : String :=
  match Text.octets c with
  | b :: _ => (Char.ofNat b).toString
  | [] => ""

/-- The cause in words. -/
def message : Error → String
  | noRoot => "the document does not have a root node"
  | unclosedRoot => "the root node was opened but never closed"
  | unexpectedEnd => "unexpected end of stream"
  | doctypeRefused => "XML with DTD detected"
  | unknownToken p => "unknown token at " ++ p.render
  | invalidName p => "invalid name token at " ++ p.render
  | mismatchedTag expected found p =>
    "expected '" ++ expected ++ "' tag, not '" ++ found ++ "' at " ++ p.render
  | strayClosingTag p => "unexpected close tag at " ++ p.render
  | duplicateAttribute name p =>
    "attribute '" ++ name ++ "' at " ++ p.render ++ " is already defined"
  | duplicatePrefix name p =>
    "namespace '" ++ name ++ "' at " ++ p.render ++ " is already defined"
  | unknownPrefix name p => "an unknown namespace prefix '" ++ name ++ "' at " ++ p.render
  | reservedElementPrefix p =>
    "the 'xmlns' prefix is used at " ++ p.render ++ ", but it must not be"
  | wrongXmlUri p => "'xml' namespace prefix mapped to wrong URI at " ++ p.render
  | reservedXmlUri p =>
    "the 'xml' namespace URI is used for not 'xml' prefix at " ++ p.render
  | reservedXmlnsUri p =>
    "the 'xmlns' URI is used at " ++ p.render ++ ", but it must not be declared"
  | malformedReference p => "malformed entity reference at " ++ p.render
  | unknownEntity name p => "unknown entity reference '" ++ name ++ "' at " ++ p.render
  | entityLoop p => "a possible entity reference loop is detected at " ++ p.render
  | bareLessThan p => "unescaped '<' found at " ++ p.render
  | unexpectedChar expected found p =>
    "expected " ++ expected ++ " not '" ++ leadingOctet found ++ "' at " ++ p.render
  | missingText expected p => "expected '" ++ expected ++ "' at " ++ p.render
  | doubleHyphen p => "comment at " ++ p.render ++ " contains '--'"
  | strayCdataEnd p => "']]>' at " ++ p.render ++ " is not allowed inside a character data"
  | misplacedDeclaration p => "unexpected XML declaration at " ++ p.render
  | invalidExternalId p => "invalid ExternalID at " ++ p.render
  | notXmlChar c p => "a non-XML character " ++ Text.quotedChar c ++ " found at " ++ p.render

end Error

end WsdlTypes.Xml
