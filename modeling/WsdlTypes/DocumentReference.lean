import WsdlTypes.Scalar
import WsdlTypes.Xml.Element
/-!
# References between documents

A service description imports others; a schema imports others for other namespaces and
includes others for its own. An included document that declares no namespace takes that
of the schema that includes it.
-/

namespace WsdlTypes

/-- The namespace of service descriptions. -/
def wsdlUri : String := "http://schemas.xmlsoap.org/wsdl/"

/-- A reference from one document to another. -/
structure DocumentReference where
  location : String
  line : Nat
  /-- The namespace of the schema that includes the other document. -/
  includedInto : Option String
deriving DecidableEq, Repr

namespace DocumentReference

/-- Whether an element is a service description. -/
def isDefinitions (e : Xml.Element) : Bool := e.hasTag wsdlUri "definitions"

/-- The imports of a service description. -/
def ofDefinitions (root : Xml.Element) : List DocumentReference :=
  (root.children wsdlUri "import").filterMap fun e =>
    (e.attribute? "location").map fun location => ⟨location, e.line, none⟩

/-- The reference that an element inside a schema makes, if it makes one. -/
def ofSchemaChild? (target : String) (e : Xml.Element) : Option DocumentReference :=
  if e.hasTag schemaUri "include" then
    (e.attribute? "schemaLocation").map fun location => ⟨location, e.line, some target⟩
  else if e.hasTag schemaUri "import" then
    (e.attribute? "schemaLocation").map fun location => ⟨location, e.line, none⟩
  else none

/-- The imports and includes of a schema, in order. -/
def ofSchema (schema : Xml.Element) : List DocumentReference :=
  schema.elements.filterMap (ofSchemaChild? (schema.attributeD "targetNamespace"))

/-- The references of a document: those of the service description first, then those of each
schema. -/
def ofRoot (root : Xml.Element) : List DocumentReference :=
  (if isDefinitions root then ofDefinitions root else [])
    ++ (root.descendants schemaUri "schema").flatMap ofSchema

end DocumentReference

end WsdlTypes
