/-!
# Scalars

The four kinds of value that the built-in datatypes of XML Schema come down to, and the
table that says which datatype comes down to which.
-/

namespace WsdlTypes

/-- The namespace of XML Schema. -/
def schemaUri : String := "http://www.w3.org/2001/XMLSchema"

/-- A kind of value without structure. -/
inductive Scalar where
  | string
  | integer
  | float
  | boolean
deriving DecidableEq, Repr, Inhabited

namespace Scalar

/-- The kind as a summary writes it. -/
def display : Scalar → String
  | string => "string"
  | integer => "int"
  | float => "float"
  | boolean => "bool"

/-- The kind's full name. -/
def label : Scalar → String
  | string => "string"
  | integer => "integer"
  | float => "float"
  | boolean => "boolean"

/-- The built-in datatypes of each kind, by local name. -/
def builtins : Scalar → List String
  | string =>
    ["string", "duration", "dateTime", "time", "date", "gYearMonth", "gYear", "gMonthDay",
      "gDay", "gMonth", "hexBinary", "base64Binary", "anyURI", "QName", "NOTATION",
      "normalizedString", "token", "language", "IDREFS", "ENTITIES", "NMTOKEN", "NMTOKENS",
      "Name", "NCName", "ID", "IDREF", "ENTITY", "yearMonthDuration", "dayTimeDuration",
      "dateTimeStamp"]
  | integer =>
    ["integer", "nonPositiveInteger", "negativeInteger", "long", "int", "short", "byte",
      "nonNegativeInteger", "unsignedLong", "unsignedInt", "unsignedShort", "unsignedByte",
      "positiveInteger"]
  | float => ["float", "double", "decimal"]
  | boolean => ["boolean"]

/-- The kind of a built-in datatype; the special types such as `anyType` have none. -/
def ofBuiltin? (name : String) : Option Scalar :=
  [string, integer, float, boolean].find? fun kind => kind.builtins.contains name

/-- The kind that stands for a name of the schema namespace: text where it has none. -/
def ofBuiltin (name : String) : Scalar := (ofBuiltin? name).getD string

end Scalar

end WsdlTypes
