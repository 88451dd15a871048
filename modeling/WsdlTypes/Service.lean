import WsdlTypes.Catalog
import WsdlTypes.Inheritance
import WsdlTypes.Report
/-!
# Operations of services

The operations of the port types of service descriptions. Each message of an operation
wraps one element; its parameters are those of the type that the input's element is, its
result is the type of the output's element. An operation that cannot be resolved is
reported and left out.
-/

namespace WsdlTypes.Service

variable (naming : Naming) (catalog : Catalog) (types : TypeMap)

/-- The expanded name that a name in a service description means. -/
def expand (definitions : Definitions) (e : Xml.Element) (qname : String) :
    Except OperationError ExpandedName :=
  (QName.expand e.scope definitions.target qname).mapError .unboundPrefix

/-- The element of an operation that names the message of a direction, and the name. -/
def messageName (operation : Xml.Element) (name : String) (direction : Direction) :
    Except OperationError (Xml.Element × String) :=
  let found := do
    let reference ← operation.child? wsdlUri direction.label
    return (reference, ← reference.attribute? "message")
  found.elim (.error (.noMessage name direction)) .ok

/-- The type of the element that a message wraps. -/
def messageType (message : ExpandedName) : Except OperationError TypeDescriptor := do
  match catalog.message? message with
  | none => throw (.unknownMessage message)
  | some (definitions, e) =>
    match e.child? wsdlUri "part" with
    | none => throw (.noPart message)
    | some part =>
      match part.attribute? "element" with
      | none => throw (.partWithoutElement message)
      | some element =>
        let key ← expand definitions part element
        match types.get? key with
        | some type => return type
        | none => throw (.unknownType key)

/-- The type of what goes in one direction. -/
def directionType (definitions : Definitions) (operation : Xml.Element) (name : String)
    (direction : Direction) : Except OperationError TypeDescriptor := do
  let (reference, message) ← messageName operation name direction
  messageType catalog types (← expand definitions reference message)

/-- A type as generated code would refer to it. -/
def reference (type : TypeDescriptor) : TypeReference := ⟨type.key, naming.qualifiedName type.key⟩

/-- An operation of a service description. -/
def operation (definitions : Definitions) (e : Xml.Element) :
    Except OperationError Operation := do
  match e.attribute? "name" with
  | none => throw .unnamed
  | some name =>
    let input ← directionType catalog types definitions e name .input
    let output ← directionType catalog types definitions e name .output
    let parameters ← types.flatten input
    return {
      name
      parameters
      wrapper := reference naming input
      result := reference naming output }

/-- The elements that declare the operations of a service description, in order. -/
def operationElements (definitions : Definitions) : List Xml.Element :=
  (definitions.element.children wsdlUri "portType").flatMap fun port =>
    port.children wsdlUri "operation"

/-- The operation that an element declares, or a report of why there is none. -/
def reportedOperation (definitions : Definitions) (e : Xml.Element) :
    Report (Option Operation) :=
  match operation naming catalog types definitions e with
  | .ok operation => pure (some operation)
  | .error cause => do
    .finding (.unresolvedOperation cause) definitions.location e.line
    return none

/-- The operations of a service description. -/
def operations (definitions : Definitions) : Report (List Operation) :=
  List.reduceOption <$>
    Report.each (reportedOperation naming catalog types definitions)
      (operationElements definitions)

/-- The operations of some documents, in the order in which the documents are given. -/
def operationsOf (documents : List Nat) : Report (List Operation) :=
  List.flatten <$>
    Report.each (operations naming catalog types) (catalog.definitionsOf documents)

end WsdlTypes.Service
