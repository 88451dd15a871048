import WsdlTypes.TypeDescriptor
/-!
# Operations

An operation of a service whose messages each wrap one element: its parameters are the
properties of the wrapping type, its result is the type of the answering element.
-/

namespace WsdlTypes

/-- A named argument of an operation. -/
structure Parameter where
  name : String
  type : ResolvedType
deriving DecidableEq, Repr

/-- A declared type and the full name under which generated code would know it. -/
structure TypeReference where
  key : ExpandedName
  qualifiedName : String
deriving DecidableEq, Repr

/-- A resolved operation. -/
structure Operation where
  name : String
  parameters : List Parameter
  wrapper : TypeReference
  result : TypeReference
deriving DecidableEq, Repr

namespace Operation

/-- The type of the first parameter of a name. -/
def parameter? (operation : Operation) (name : String) : Option ResolvedType :=
  (operation.parameters.find? fun parameter => parameter.name = name).map Parameter.type

/-- The names of the parameters, in order. -/
def parameterNames (operation : Operation) : List String :=
  operation.parameters.map Parameter.name

end Operation

end WsdlTypes
