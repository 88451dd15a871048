import WsdlTypes.Diagnostic
import WsdlTypes.Location
import WsdlTypes.Naming
import WsdlTypes.QName
/-!
# Problems

What may turn out to be wrong with documents once the first of them is there, each as a
cause with what it is about. A problem is a diagnostic once it is put into words; how types
are named matters for the words alone.
-/

namespace WsdlTypes

/-- The two messages of an operation. -/
inductive Direction where
  | input
  | output
deriving DecidableEq, Repr

/-- The direction's name, which is that of the element, too. -/
def Direction.label : Direction → String
  | .input => "input"
  | .output => "output"

/-- Why an operation could not be resolved. -/
inductive OperationError where
  | unnamed
  | noMessage (operation : String) (direction : Direction)
  | unknownMessage (message : ExpandedName)
  | noPart (message : ExpandedName)
  | partWithoutElement (message : ExpandedName)
  | unknownType (type : ExpandedName)
  | inheritanceLoop (type : ExpandedName)
  | unboundPrefix (cause : UnboundPrefix)
deriving DecidableEq, Repr

/-- The cause in words. -/
def OperationError.message : OperationError → String
  | unnamed => "<operation> is missing the 'name' attribute"
  | noMessage operation direction =>
    "operation '" ++ operation ++ "' has no " ++ direction.label ++ " message"
  | unknownMessage message =>
    "message '" ++ message.display ++ "' is not declared in any loaded WSDL document"
  | noPart message => "message '" ++ message.display ++ "' has no part"
  | partWithoutElement message =>
    "the part of message '" ++ message.display
      ++ "' does not reference an element; only document-literal wrapped messages are supported"
  | unknownType type => "type '" ++ type.display ++ "' is not present in the type map"
  | inheritanceLoop type => "inheritance cycle through type '" ++ type.display ++ "'"
  | unboundPrefix cause => cause.message

/-- What is wrong. -/
inductive Problem where
  | unloaded (cause : LoadError)
  /-- More than one complex type in the declaration of a type. -/
  | nestedComplexType (type : String)
  | selfReference (property type : String)
  | unboundPrefix (cause : UnboundPrefix) (qname : String)
  | unresolvedAttribute (reference : String)
  /-- A list of values for a type that no built-in one is at the bottom of. -/
  | enumerationBase (type : ExpandedName)
  /-- One more declaration of a type, in the document at a location. -/
  | duplicateType (type : ExpandedName) (location : String)
  | simpleContentParent (type parent : ExpandedName)
  | undeclaredReference (target : ExpandedName) (referrer type : String)
  | inheritanceLoop (type : String) (closedBy : ExpandedName)
  | unresolvedOperation (cause : OperationError)
deriving DecidableEq, Repr

namespace Problem

/-- What the problem is about. -/
def kind : Problem → DiagnosticKind
  | unloaded _ => .loadError
  | nestedComplexType _ | simpleContentParent .. => .unsupportedSchemaConstruct
  | selfReference .. => .selfReferencingProperty
  | duplicateType .. => .duplicateTypeDefinition
  | inheritanceLoop .. => .inheritanceCycle
  | unboundPrefix .. | unresolvedAttribute _ | enumerationBase _ | undeclaredReference .. |
    unresolvedOperation _ => .unresolvableReference

/-- The problem in words. -/
def message (naming : Naming) : Problem → String
  | unloaded cause => cause.message
  | nestedComplexType type =>
    "Nested complexType element declaration in XML schema for type '" ++ type
      ++ "' not supported."
  | selfReference property type =>
    "Property '" ++ property ++ "' of type '" ++ type ++ "' references its own type"
  | unboundPrefix cause qname => cause.message ++ " in '" ++ qname ++ "'"
  | unresolvedAttribute reference =>
    "Attribute reference '" ++ reference ++ "' could not be resolved"
  | enumerationBase type =>
    "Enumeration base type '" ++ type.display ++ "' could not be resolved to a built-in type"
  | duplicateType type location =>
    "Type '" ++ naming.qualifiedName type ++ "' in file '" ++ location ++ "' already exists"
  | simpleContentParent type parent =>
    "Type '" ++ naming.qualifiedName type ++ "' has simple content and cannot also extend '"
      ++ parent.display ++ "'"
  | undeclaredReference target referrer type =>
    "Type '" ++ target.display ++ "' referenced by '" ++ referrer ++ "' of type '" ++ type
      ++ "' is not declared"
  | inheritanceLoop type closedBy =>
    "Inheritance chain of type '" ++ type ++ "' loops at '" ++ closedBy.display ++ "'"
  | unresolvedOperation cause => cause.message

end Problem

/-- A problem and the place it was met at; line 0 stands for an unknown line. -/
structure Finding where
  problem : Problem
  file : String
  line : Nat
deriving DecidableEq, Repr

/-- The finding in words. -/
def Finding.diagnostic (naming : Naming) (finding : Finding) : Diagnostic where
  kind := finding.problem.kind
  message := finding.problem.message naming
  file := finding.file
  line := finding.line

end WsdlTypes
