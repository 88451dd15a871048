import WsdlTypes.Catalog
import WsdlTypes.Report
import WsdlTypes.ResolvedType
import WsdlTypes.Unvisited
/-!
# What names mean

Schemas name types, elements and attributes by prefixed names. A name whose prefix nothing
binds is reported and taken to lie in the schema's own namespace. A name of the schema
namespace means a built-in datatype, and so a scalar; every other name means a declaration,
whether or not there is one.
-/

namespace WsdlTypes

/-- What a type's name means. -/
inductive TypeName where
  | builtin (kind : Scalar)
  | declared (key : ExpandedName)
deriving DecidableEq, Repr

/-- What an expanded name means when it names a type. -/
def TypeName.ofKey (key : ExpandedName) : TypeName :=
  if key.uri = schemaUri then .builtin (Scalar.ofBuiltin key.name) else .declared key

/-- The type of the values. -/
def TypeName.type : TypeName → ResolvedType
  | builtin kind => .scalar kind
  | declared key => .reference key

namespace Schema

/-- Reports a problem at an element of the schema. -/
def report (schema : Schema) (e : Xml.Element) (problem : Problem) : Report Unit :=
  .finding problem schema.location e.line

/-- The expanded name that a name means at an element. -/
def expand? (schema : Schema) (e : Xml.Element) (qname : String) :
    Except UnboundPrefix ExpandedName :=
  QName.expand e.scope schema.target qname

/-- The expanded name that a name means at an element, or by default where its prefix is not
bound. -/
def expand (schema : Schema) (e : Xml.Element) (qname : String) : Report ExpandedName :=
  match schema.expand? e qname with
  | .ok key => pure key
  | .error cause => do
    schema.report e (.unboundPrefix cause qname)
    return ⟨schema.target, (QName.split qname).2⟩

/-- What a type's name means at an element. -/
def typeName (schema : Schema) (e : Xml.Element) (qname : String) : Report TypeName :=
  TypeName.ofKey <$> schema.expand e qname

end Schema

/-- Whether an element declares its type in place. -/
def hasInlineType (e : Xml.Element) : Bool :=
  (e.child? schemaUri "complexType").isSome || (e.child? schemaUri "simpleType").isSome

/-- The restriction in a simple type that names its base, and the name. -/
def namedBase? (simpleType : Xml.Element) : Option (Xml.Element × String) :=
  (simpleType.descendants schemaUri "restriction").findSome? fun restriction =>
    (restriction.attribute? "base").map (restriction, ·)

namespace Catalog

/-- The built-in type of a global element. Such an element is no type of its own, so what
refers to it has to carry the scalar itself. -/
def builtinElement? (catalog : Catalog) (key : ExpandedName) : Option Scalar := do
  let (schema, e) ← catalog.declaration? "element" key
  if hasInlineType e then none
  else
    match schema.expand? e (← e.attribute? "type") with
    | .ok target => if target.uri = schemaUri then some (Scalar.ofBuiltin target.name) else none
    | .error _ => none

/-- The expanded names of the declarations of a tag, in order. -/
def keys (catalog : Catalog) (tag : String) : List ExpandedName :=
  catalog.schemas.flatMap fun schema =>
    (schema.element.children schemaUri tag).filterMap fun e =>
      (e.attribute? "name").map (⟨schema.target, ·⟩)

theorem mem_keys_of_declaration? {catalog : Catalog} {tag : String} {key : ExpandedName}
    {found : Schema × Xml.Element} (h : catalog.declaration? tag key = some found) :
    key ∈ catalog.keys tag := by
  obtain ⟨schema, e⟩ := found
  obtain ⟨hschema, htarget, he, hname⟩ := declaration?_eq_some h
  refine List.mem_flatMap.2 ⟨schema, hschema, List.mem_filterMap.2 ⟨e, he, ?_⟩⟩
  rw [hname, htarget]
  rfl

/-- The scalar that simple types come down to when each is replaced by the base of its first
restriction that names one: none where a declaration is missing or the bases go round in a
circle. Lists and unions are carried as text. -/
def scalarBase (catalog : Catalog) (visited : List ExpandedName) (key : ExpandedName) :
    Report (Option Scalar) :=
  if key.uri = schemaUri then pure (some (Scalar.ofBuiltin key.name))
  else if _hnew : key ∈ visited then pure none
  else
    match _hfound : catalog.declaration? "simpleType" key with
    | none => pure none
    | some (schema, simpleType) =>
      match namedBase? simpleType with
      | none => pure (some .string)
      | some (restriction, base) => do
        catalog.scalarBase (key :: visited) (← schema.expand restriction base)
termination_by unvisited (catalog.keys "simpleType") visited
decreasing_by exact unvisited_cons_lt (mem_keys_of_declaration? _hfound) _hnew

/-- One step down from a simple type. -/
theorem scalarBase_eq (catalog : Catalog) (visited : List ExpandedName) (key : ExpandedName) :
    catalog.scalarBase visited key
      = if key.uri = schemaUri then pure (some (Scalar.ofBuiltin key.name))
        else if key ∈ visited then pure none
        else (catalog.declaration? "simpleType" key).elim (pure none) fun found =>
          (namedBase? found.2).elim (pure (some .string)) fun base =>
            found.1.expand base.1 base.2 >>= catalog.scalarBase (key :: visited) := by
  rw [scalarBase]
  split
  · rfl
  · split
    · rfl
    · split
      · rename_i hnone
        simp only [hnone, Option.elim_none]
      · rename_i schema simpleType hfound
        simp only [hfound, Option.elim_some]
        cases namedBase? simpleType <;> rfl

end Catalog

end WsdlTypes
