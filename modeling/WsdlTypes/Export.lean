import WsdlTypes.Json
import WsdlTypes.Session
/-!
# Results as JSON

The shape in which the results of a resolution are handed to other programs. A member that
has no value is left out.
-/

namespace WsdlTypes

/-- A list of values as JSON. -/
def Json.list {α : Type} (json : α → Json) (l : List α) : Json := .array (l.map json)

/-- A member that may be missing. -/
def Json.optional {α : Type} (name : String) (json : α → Json) (value : Option α) :
    List (String × Json) :=
  value.toList.map fun a => (name, json a)

/-- An expanded name as JSON. -/
def ExpandedName.json (key : ExpandedName) : Json :=
  .object [("namespace", .string key.uri), ("name", .string key.name)]

/-- A type as JSON: what kind of type it is, and of what. -/
def ResolvedType.json : ResolvedType → Json
  | scalar kind => .object [("kind", .string "scalar"), ("of", .string kind.label)]
  | reference key => .object [("kind", .string "reference"), ("of", key.json)]
  | array element => .object [("kind", .string "array"), ("of", element.json)]

/-- A property as JSON. -/
def Property.json (property : Property) : Json :=
  .object <|
    [("name", .string property.name),
      ("resolved_type", property.type.json),
      ("source_schema_type", .string property.source),
      ("nullable", .bool property.nullable),
      ("restrictions", .object (property.restrictions.entries.map fun facet =>
        (facet.1, .string facet.2)))]
    ++ Json.optional "enum_values" (Json.list .string) property.enumeration

/-- A type descriptor as JSON. -/
def TypeDescriptor.json (type : TypeDescriptor) : Json :=
  .object <|
    [("key", type.key.json),
      ("source_location", .string type.location),
      ("namespace", .string type.package),
      ("name", .string type.name)]
    ++ Json.optional "documentation" .string type.documentation
    ++ Json.optional "parent" ExpandedName.json type.parent
    ++ [("properties", Json.list Property.json type.properties)]

/-- A parameter as JSON. -/
def Parameter.json (parameter : Parameter) : Json :=
  .object [("name", .string parameter.name), ("resolved_type", parameter.type.json)]

/-- A reference to a type as JSON. -/
def TypeReference.json (reference : TypeReference) : Json :=
  .object [("key", reference.key.json), ("qualified_name", .string reference.qualifiedName)]

/-- An operation as JSON. -/
def Operation.json (operation : Operation) : Json :=
  .object [
    ("name", .string operation.name),
    ("parameters", Json.list Parameter.json operation.parameters),
    ("wrapper_type", operation.wrapper.json),
    ("return_type", operation.result.json)]

/-- A diagnostic as JSON. -/
def Diagnostic.json (d : Diagnostic) : Json :=
  .object [
    ("kind", .string d.kind.label),
    ("message", .string d.message),
    ("file", .string d.file),
    ("line", .number d.line)]

/-- All that came of a session as JSON, the types in the order of their names. -/
def Resolution.json (resolution : Resolution) : Json :=
  .object [
    ("soap_version", .string resolution.soapVersion.label),
    ("types", Json.list TypeDescriptor.json resolution.types.values),
    ("operations", Json.list Operation.json resolution.operations),
    ("diagnostics", Json.list Diagnostic.json resolution.diagnostics)]

end WsdlTypes
