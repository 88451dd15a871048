import WsdlTypes.ExpandedName
import WsdlTypes.Scalar
/-!
# Resolved types

What the type of a property comes down to: a scalar, a declaration by its expanded name,
or an array of one of these. Arrays may nest.
-/

namespace WsdlTypes

/-- A scalar, a reference to a declaration, or an array. -/
inductive ResolvedType where
  | scalar (kind : Scalar)
  | reference (key : ExpandedName)
  | array (element : ResolvedType)
deriving DecidableEq, Repr, Inhabited

namespace ResolvedType

/-- Whether the outermost layer is an array. -/
def isArray : ResolvedType → Bool
  | array _ => true
  | _ => false

/-- The type without its array layers. -/
def item : ResolvedType → ResolvedType
  | array element => element.item
  | type => type

/-- The declaration referred to, looking through arrays. -/
def reference? (type : ResolvedType) : Option ExpandedName :=
  match type.item with
  | reference key => some key
  | _ => none

/-- The type as a summary writes it. -/
def display : ResolvedType → String
  | scalar kind => kind.display
  | reference key => key.display
  | array element => "array<" ++ element.display ++ ">"

/-- No array is left when the layers are removed. -/
theorem isArray_item (type : ResolvedType) : type.item.isArray = false := by
  induction type with
  | scalar | reference => rfl
  | array element ih => exact ih

@[simp] theorem reference?_array (element : ResolvedType) :
    (array element).reference? = element.reference? := rfl

end ResolvedType

end WsdlTypes
