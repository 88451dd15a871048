import WsdlTypes.Session
/-!
# Results as a summary

A few lines for a reader: each type with what it extends and its properties, each operation
with its parameters and result, and how much there is of everything.
-/

namespace WsdlTypes

/-- A property on a line of its own. -/
def Property.summary (property : Property) : String :=
  "    " ++ property.name ++ ": " ++ property.type.display
    ++ (if property.nullable then "?" else "")
    ++ (property.enumeration.elim "" fun values => " = " ++ Text.join " | " values)

/-- A type and its properties, each on a line. -/
def TypeDescriptor.summary (naming : Naming) (type : TypeDescriptor) : List String :=
  ("type " ++ naming.qualifiedName type.key
    ++ (type.parent.elim "" fun parent => " extends " ++ naming.qualifiedName parent))
  :: type.properties.map Property.summary

/-- An operation on a line. -/
def Operation.summary (operation : Operation) : String :=
  let parameters := operation.parameters.map fun parameter =>
    parameter.name ++ ": " ++ parameter.type.display
  "operation " ++ operation.name ++ "(" ++ Text.join ", " parameters ++ ") -> "
    ++ operation.result.qualifiedName

/-- The lines of a summary. -/
def Resolution.summary (naming : Naming) (resolution : Resolution) : List String :=
  resolution.types.values.flatMap (TypeDescriptor.summary naming)
    ++ resolution.operations.map Operation.summary
    ++ [toString resolution.types.size ++ " types, "
      ++ toString resolution.operations.length ++ " operations, "
      ++ toString resolution.diagnostics.length ++ " diagnostics"]

end WsdlTypes
