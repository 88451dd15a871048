import WsdlTypes.Config
import WsdlTypes.Member
/-!
# Declarations

A top-level declaration of a schema becomes a type descriptor. Its content is simple, where
the one value has a configured name and comes first; or it extends another type by elements
and attributes; or it is plain, and then it has elements, or the value of a simple type, and
attributes behind. A declaration with more than one complex type in it is reported and keeps
its documentation alone.
-/

namespace WsdlTypes.Declaration

variable (config : Config) (catalog : Catalog) (schema : Schema)

/-- The text of the first documentation in a declaration, if there is any. -/
def documentation? (e : Xml.Element) : Option String :=
  (e.descendant? schemaUri "documentation").bind fun found =>
    let text := Text.trim found.allText
    if text.isEmpty then none else some text

/-- What the content of a declaration says about its type. -/
structure Body where
  parent : Option ExpandedName := none
  properties : List Property := []
deriving DecidableEq, Repr

/-- The derivation in a simple content. -/
def contentDerivation? (content : Xml.Element) : Option Xml.Element :=
  content.elements.find? fun e =>
    e.hasTag schemaUri "extension" || e.hasTag schemaUri "restriction"

/-- The value of a simple content: that of a restricted type, or of the type extended. -/
def contentValue (name : String) (derivation : Xml.Element) : Report Property :=
  if derivation.hasTag schemaUri "restriction" then
    SimpleType.restricted catalog schema name derivation
      (SimpleType.property? catalog schema name derivation)
  else SimpleType.ofBase schema name derivation (pure none)

/-- The body of a declaration with simple content: the value and the attributes. -/
def simpleBody (content : Xml.Element) : Report Body :=
  match contentDerivation? content with
  | none => pure {}
  | some derivation => do
    let value ← contentValue catalog schema config.valueName derivation
    let attributes ← Member.attributes catalog schema derivation
    return { properties := value :: attributes }

/-- The type that a complex content extends, unless that is a built-in one. -/
def extended? (content : Xml.Element) : Report (Option ExpandedName) :=
  match content.child? schemaUri "extension" with
  | none => pure none
  | some extension =>
    match extension.attribute? "base" with
    | none => pure none
    | some base => do
      match ← schema.typeName extension base with
      | .declared key => return some key
      | .builtin _ => return none

/-- The body of a declaration with complex content: what it extends, the elements and the
attributes. -/
def complexBody (content : Xml.Element) : Report Body := do
  let parent ← extended? schema content
  let elements ← Member.elements catalog schema content
  let attributes ← Member.attributes catalog schema content
  return { parent, properties := elements ++ attributes }

/-- The elements of a plain declaration, or the value of its simple type where it has none. -/
def plainMembers (e : Xml.Element) : Report (List Property) := do
  match ← Member.elements catalog schema e with
  | [] => return (← SimpleType.property? catalog schema config.valueName e).toList
  | elements => return elements

/-- The body of a declaration without content of either kind. -/
def plainBody (e : Xml.Element) : Report Body := do
  let members ← plainMembers config catalog schema e
  let attributes ← Member.attributes catalog schema e
  return { properties := members ++ attributes }

/-- The body of a declaration. -/
def body (e : Xml.Element) : Report Body :=
  match e.descendant? schemaUri "simpleContent" with
  | some content => simpleBody config catalog schema content
  -- Simple content counts first, wherever it stands.
  | none =>
    match e.descendant? schemaUri "complexContent" with
    | some content => complexBody catalog schema content
    | none => plainBody config catalog schema e

/-- Whether a declaration has complex types inside its complex type. -/
def isNested (e : Xml.Element) : Bool := 1 < (e.descendants schemaUri "complexType").length

/-- Reports the properties that refer to the type they belong to. -/
def reportSelfReferences (e : Xml.Element) (type : TypeDescriptor) : Report Unit := do
  let own := type.properties.filter fun property => property.type = .reference type.key
  let _ ← Report.each
    (fun property => schema.report e (.selfReference property.name type.name)) own

/-- The descriptor of a declaration without parent and properties. -/
def outline (e : Xml.Element) (name : String) : TypeDescriptor :=
  { TypeDescriptor.ofKey ⟨schema.target, name⟩ (config.naming.package schema.target)
      schema.location with
    documentation := documentation? e }

/-- The descriptor of a declaration. -/
def describe (e : Xml.Element) (name : String) : Report TypeDescriptor := do
  if isNested e then
    schema.report e (.nestedComplexType name)
    return outline config schema e name
  else
    let body ← body config catalog schema e
    let type := { outline config schema e name with
      parent := body.parent
      properties := body.properties }
    reportSelfReferences schema e type
    return type

/-- The descriptor of a global element that has the type of another declaration: it extends
that. -/
def extending (e : Xml.Element) (name : String) (target : ExpandedName) : TypeDescriptor :=
  { outline config schema e name with parent := some target }

/-- The descriptor of a global element. There is none for an element without a name, nor for
one of a built-in type, nor for one called like its type. -/
def describeElement (e : Xml.Element) : Report (Option TypeDescriptor) :=
  match e.attribute? "name", e.attribute? "type" with
  | none, _ => pure none
  | some name, none => some <$> describe config catalog schema e name
  | some name, some type =>
    if hasInlineType e then some <$> describe config catalog schema e name
    else do
      match ← schema.typeName e type with
      | .builtin _ => return none
      | .declared target =>
        if target = ⟨schema.target, name⟩ then return none
        else return some (extending config schema e name target)

/-- The descriptor of a complex or simple type that has a name. -/
def describeType (e : Xml.Element) : Report (Option TypeDescriptor) :=
  match e.attribute? "name" with
  | none => pure none
  | some name => some <$> describe config catalog schema e name

end WsdlTypes.Declaration
