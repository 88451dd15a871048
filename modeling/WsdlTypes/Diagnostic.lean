/-!
# Diagnostics

A problem that does not stop a resolution is written down: its kind, a message, and the
place it was met at. Diagnostics are only ever added, so a log grows at its end.
-/

namespace WsdlTypes

/-- What a diagnostic is about. -/
inductive DiagnosticKind where
  | loadError
  | unsupportedSchemaConstruct
  | duplicateTypeDefinition
  | selfReferencingProperty
  | unresolvableReference
  | inheritanceCycle
deriving DecidableEq, Repr

namespace DiagnosticKind

/-- Every kind. -/
def all : List DiagnosticKind :=
  [loadError, unsupportedSchemaConstruct, duplicateTypeDefinition, selfReferencingProperty,
    unresolvableReference, inheritanceCycle]

/-- The kind's name. -/
def label : DiagnosticKind → String
  | loadError => "LoadError"
  | unsupportedSchemaConstruct => "UnsupportedSchemaConstruct"
  | duplicateTypeDefinition => "DuplicateTypeDefinition"
  | selfReferencingProperty => "SelfReferencingProperty"
  | unresolvableReference => "UnresolvableReference"
  | inheritanceCycle => "InheritanceCycle"

/-- The kind of a name. -/
def ofLabel? (name : String) : Option DiagnosticKind := all.find? fun kind => kind.label = name

theorem ofLabel?_label (kind : DiagnosticKind) : ofLabel? kind.label = some kind := by
  cases kind <;> decide

end DiagnosticKind

/-- A problem that was met on the way; line 0 stands for an unknown line. -/
structure Diagnostic where
  kind : DiagnosticKind
  message : String
  file : String
  line : Nat
deriving DecidableEq, Repr

namespace Diagnostic

/-- The diagnostic on one line of text. -/
def render (d : Diagnostic) : String :=
  "Error: " ++ d.message ++ ", File: " ++ d.file
    ++ if d.line = 0 then "" else " Line: " ++ toString d.line

/-- The diagnostics of a kind, in order. -/
def ofKind (log : List Diagnostic) (kind : DiagnosticKind) : List Diagnostic :=
  log.filter fun d => d.kind = kind

end Diagnostic

end WsdlTypes
