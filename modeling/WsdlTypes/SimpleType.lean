import WsdlTypes.TypeDescriptor
import WsdlTypes.TypeName
/-!
# Simple types

A simple type restricts another, lists values of another, or unites several; what it is
derived from may be named or be declared in place, to any depth. It becomes one property
with the type of the values, the facets that constrain them and, where the values are
listed one by one, that list.
-/

namespace WsdlTypes

/-- A property of a scalar type that nothing is said about but its name. -/
def Property.untyped (name : String) : Property := { name, type := .scalar .string, source := "" }

namespace SimpleType

/-- The tags of derivations. -/
def derivationTags : List String := ["restriction", "list", "union"]

/-- The derivation in a simple type, in an element that declares a simple type in place, or in
an element itself. -/
def derivation? (e : Xml.Element) : Option Xml.Element :=
  let holder :=
    if e.hasTag schemaUri "simpleType" then e
    else (e.child? schemaUri "simpleType").getD e
  holder.elements.find? fun child => derivationTags.any (child.hasTag schemaUri ·)

/-- A derivation lies inside what it is the derivation of. -/
theorem sizeOf_lt_of_derivation? {e derivation : Xml.Element}
    (h : derivation? e = some derivation) : sizeOf derivation < sizeOf e := by
  have hlt := Xml.Element.sizeOf_lt_of_mem_elements (List.mem_of_find?_eq_some h)
  split at hlt
  · exact hlt
  · cases hc : e.child? schemaUri "simpleType" with
    | none => simpa [hc] using hlt
    | some child =>
      have := Xml.Element.sizeOf_lt_of_mem_elements (List.mem_of_find?_eq_some hc)
      simp only [hc, Option.getD_some] at hlt
      omega

/-- The facets of a restriction that have a value, in order. -/
def facets (restriction : Xml.Element) : List (String × String) :=
  restriction.elements.filterMap fun e =>
    if e.start.uri = some schemaUri then (e.attribute? "value").map (e.name, ·) else none

/-- The values that a restriction lists one by one. -/
def enumeration (restriction : Xml.Element) : List String :=
  ((facets restriction).filter fun facet => facet.1 = "enumeration").map Prod.snd

/-- The other facets of a restriction; of two with one name the later one counts. -/
def constraints (restriction : Xml.Element) (before : SortedMap String String) :
    SortedMap String String :=
  ((facets restriction).filter fun facet => facet.1 ≠ "enumeration").foldl
    (fun found facet => found.insert facet.1 facet.2) before

/-- The type of listed values: a scalar, also where a simple type is named instead. -/
def enumerationType (catalog : Catalog) (schema : Schema) (restriction : Xml.Element) :
    ResolvedType → Report ResolvedType
  | .reference base => do
    match ← catalog.scalarBase [] base with
    | some kind => return .scalar kind
    | none =>
      schema.report restriction (.enumerationBase base)
      return .scalar .string
  | type => return type

/-- A property with the facets of a restriction. -/
def withFacets (catalog : Catalog) (schema : Schema) (restriction : Xml.Element)
    (property : Property) : Report Property := do
  let restrictions := constraints restriction property.restrictions
  match enumeration restriction with
  | [] => return { property with restrictions }
  | values =>
    let type ← enumerationType catalog schema restriction property.type
    return { property with type, restrictions, enumeration := some values }

/-- The property that the base of a restriction makes; `inner` is what the base comes to when
it is declared in place. -/
def ofBase (schema : Schema) (name : String) (restriction : Xml.Element)
    (inner : Report (Option Property)) : Report Property :=
  match restriction.attribute? "base" with
  | some base => do
    return { name, type := (← schema.typeName restriction base).type, source := base }
  | none => do
    match ← inner with
    | some base => return { name, type := base.type, source := base.source }
    | none => return .untyped name

/-- The property that a restriction makes: that of its base, with the facets. -/
def restricted (catalog : Catalog) (schema : Schema) (name : String) (restriction : Xml.Element)
    (inner : Report (Option Property)) : Report Property := do
  withFacets catalog schema restriction (← ofBase schema name restriction inner)

/-- The property that a list makes; `inner` is what the type of its items comes to when it is
declared in place. -/
def listed (schema : Schema) (name : String) (list : Xml.Element)
    (inner : Report (Option Property)) : Report Property :=
  match list.attribute? "itemType" with
  | some item => do
    return { name, type := .array (← schema.typeName list item).type, source := item }
  | none => do
    let item := (← inner).elim (.scalar .string) Property.type
    return { name, type := .array item, source := "" }

/-- The property that a union makes: its values are carried as text. -/
def united (name : String) (union : Xml.Element) : Property :=
  { name, type := .scalar .string, source := union.attributeD "memberTypes" }

/-- The property that the values of a simple type make, where there is a derivation. -/
def property? (catalog : Catalog) (schema : Schema) (name : String) (e : Xml.Element) :
    Report (Option Property) :=
  match _h : derivation? e with
  | none => pure none
  | some derivation =>
    let inner := property? catalog schema name derivation
    some <$>
      if derivation.name = "restriction" then restricted catalog schema name derivation inner
      else if derivation.name = "list" then listed schema name derivation inner
      else pure (united name derivation)
termination_by sizeOf e
decreasing_by exact sizeOf_lt_of_derivation? _h

/-- The property of a simple type is that of its derivation. -/
theorem property?_eq_match {catalog : Catalog} {schema : Schema} {name : String}
    {e : Xml.Element} : property? catalog schema name e =
    match derivation? e with
    | none => pure none
    | some derivation =>
      let inner := property? catalog schema name derivation
      some <$>
        if derivation.name = "restriction" then restricted catalog schema name derivation inner
        else if derivation.name = "list" then listed schema name derivation inner
        else pure (united name derivation) := by
  rw [property?]
  split
  · rename_i hnone
    rw [hnone]
  · rename_i derivation hderivation
    rw [hderivation]

end SimpleType

end WsdlTypes
