import WsdlTypes.ResolvedType
/-!
# Type descriptors

The flat picture of a declared type: its name, what it extends, and its properties in
order. Declarations of the same expanded name are folded into one descriptor by `merge`:
a field that holds one value takes the newer one unless that is missing, and the newer
properties follow the older ones.
-/

namespace WsdlTypes

/-- A named value of a type. -/
structure Property where
  name : String
  type : ResolvedType
  /-- The type's name as the document writes it. -/
  source : String
  nullable : Bool := false
  /-- The constraining facets and their values. -/
  restrictions : SortedMap String String := .empty
  enumeration : Option (List String) := none
deriving DecidableEq, Repr

/-- A declared type. -/
structure TypeDescriptor where
  key : ExpandedName
  /-- The document that declares it, as its location is written. -/
  location : String
  /-- The namespace as a path, empty when types are not grouped by namespace. -/
  package : String
  name : String
  documentation : Option String := none
  parent : Option ExpandedName := none
  properties : List Property := []
deriving DecidableEq, Repr

namespace TypeDescriptor

/-- A type without documentation, parent and properties, called by its local name. -/
def ofKey (key : ExpandedName) (package location : String) : TypeDescriptor :=
  { key, location, package, name := key.name }

/-- The first property of a name. -/
def property? (type : TypeDescriptor) (name : String) : Option Property :=
  type.properties.find? fun property => property.name = name

/-- A later declaration of the same name folded into an earlier one. -/
def merge (older newer : TypeDescriptor) : TypeDescriptor :=
  { older with
    location := if newer.location.isEmpty then older.location else newer.location
    package := if newer.package.isEmpty then older.package else newer.package
    documentation := newer.documentation.or older.documentation
    parent := newer.parent.or older.parent
    properties := older.properties ++ newer.properties }

@[simp] theorem key_merge (older newer : TypeDescriptor) :
    (older.merge newer).key = older.key := rfl

@[simp] theorem name_merge (older newer : TypeDescriptor) :
    (older.merge newer).name = older.name := rfl

@[simp] theorem properties_merge (older newer : TypeDescriptor) :
    (older.merge newer).properties = older.properties ++ newer.properties := rfl

@[simp] theorem parent_merge (older newer : TypeDescriptor) :
    (older.merge newer).parent = newer.parent.or older.parent := rfl

end TypeDescriptor

/-- The resolved declarations, by expanded name. -/
abbrev TypeMap := SortedMap ExpandedName TypeDescriptor

end WsdlTypes
