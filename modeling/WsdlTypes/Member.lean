import WsdlTypes.Repetition
import WsdlTypes.SimpleType
/-!
# Members of types

The properties that a type takes from the elements and attributes in its declaration. An
element or attribute either refers to a global one or has a name and a type of its own,
which may be declared in place. An element that may occur more than once holds an array.
-/

namespace WsdlTypes.Member

variable (catalog : Catalog) (schema : Schema)

/-- The property of an element or attribute with a name of its own. -/
def ofDeclaration (e : Xml.Element) : Report Property :=
  let name := e.attributeD "name"
  match e.attribute? "type" with
  | some type => do
    return { name, type := (← schema.typeName e type).type, source := type }
  | none => do
    return (← SimpleType.property? catalog schema name e).getD (.untyped name)

/-- The property of a reference to a global element. -/
def ofElementReference (e : Xml.Element) (reference : String) : Report Property := do
  let key ← schema.expand e reference
  return {
    name := key.name
    type := (catalog.builtinElement? key).elim (.reference key) .scalar
    source := reference }

/-- The property of an element that occurs once. -/
def ofSingleElement (e : Xml.Element) : Report Property :=
  match e.attribute? "ref" with
  | some reference => ofElementReference catalog schema e reference
  | none => ofDeclaration catalog schema e

/-- Whether an element may be left without a value. -/
def isNillable (e : Xml.Element) : Bool :=
  e.attribute? "nillable" == some "true" || e.attribute? "nillable" == some "1"

/-- The property of an element. -/
def ofElement (e : Xml.Element) : Report Property := do
  let property ← ofSingleElement catalog schema e
  return { property with
    nullable := isNillable e
    type :=
      if Repetition.isMany (e.attribute? "maxOccurs") then .array property.type
      else property.type }

/-- The property of a reference to a global attribute, where there is one. The attributes of
the prefix `xml` are known without a declaration. -/
def ofAttributeReference (e : Xml.Element) (reference : String) : Report (Option Property) := do
  let key ← schema.expand e reference
  match catalog.declaration? "attribute" key with
  | some (declaring, declaration) => some <$> ofDeclaration catalog declaring declaration
  | none =>
    if key.uri = Xml.xmlUri then
      return some { name := key.name, type := .scalar .string, source := reference }
    else do
      schema.report e (.unresolvedAttribute reference)
      return none

/-- The property of an attribute. -/
def ofAttribute (e : Xml.Element) : Report (Option Property) :=
  match e.attribute? "ref" with
  | some reference => ofAttributeReference catalog schema e reference
  | none => some <$> ofDeclaration catalog schema e

/-- The properties of the elements inside an element, in document order. -/
def elements (holder : Xml.Element) : Report (List Property) :=
  .each (ofElement catalog schema) (holder.inside schemaUri "element")

/-- The properties of the attributes inside an element, in document order. A prohibited
attribute is none. -/
def attributes (holder : Xml.Element) : Report (List Property) :=
  List.reduceOption <$>
    Report.each (ofAttribute catalog schema)
      ((holder.inside schemaUri "attribute").filter fun e =>
        e.attribute? "use" != some "prohibited")

end WsdlTypes.Member
