import Mathlib.Data.List.ReduceOption
import WsdlTypes.Proofs.Names
import WsdlTypes.Proofs.Walk.Types
/-!
# Values and parents

A type has a parent or a value of its own, not both (`TypeDescriptor.Exclusive`). A declaration
with simple content, or of a simple type, makes the value and no parent; one with complex
content makes the parent, and its properties are called like the elements and attributes in
it, of which none is to have the name of the value (`exclusive_describeAny`). A merge may bring
the two together, and then the parent is dropped (`exclusive_declare`).
-/

namespace WsdlTypes

namespace Xml

mutual

/-- What lies in an element of a tree lies in the tree. -/
theorem Element.all_subset_of_mem {root e : Element} (h : e ∈ root.all) : e.all ⊆ root.all := by
  match root with
  | .mk start content =>
    rcases List.mem_cons.1 h with rfl | h
    · exact List.Subset.refl _
    · exact List.subset_cons_of_subset _ (Content.all_subset_of_mem h)

theorem Content.all_subset_of_mem {content : Content} {e : Element} (h : e ∈ content.all) :
    e.all ⊆ content.all := by
  match content with
  | .nil => cases h
  | .text _ rest =>
    have hrest : e.all ⊆ rest.all := Content.all_subset_of_mem h
    exact hrest
  | .element child rest =>
    rcases List.mem_append.1 h with h | h
    · exact List.subset_append_of_subset_left _ (Element.all_subset_of_mem h)
    · exact List.subset_append_of_subset_right _ (Content.all_subset_of_mem h)

end

/-- The elements inside an element lie in it. -/
theorem Element.mem_all_of_mem_inside {e member : Element} {uri name : String}
    (h : member ∈ e.inside uri name) : member ∈ e.all := by
  rw [all_eq]
  exact List.mem_cons_of_mem _ (List.mem_filter.1 h).1

theorem Element.mem_all_of_mem_elements {e child : Element} (h : child ∈ e.elements) :
    child ∈ e.all := by
  rw [all_eq]
  exact List.mem_cons_of_mem _ (Content.elements_subset_all _ h)

theorem Element.mem_all_of_mem_children {e child : Element} {uri name : String}
    (h : child ∈ e.children uri name) : child ∈ e.all :=
  mem_all_of_mem_elements (List.mem_filter.1 h).1

end Xml

/-- A derivation lies in what it is the derivation of. -/
theorem SimpleType.mem_all_of_derivation? {e derivation : Xml.Element}
    (h : derivation? e = some derivation) : derivation ∈ e.all := by
  have hmem := List.mem_of_find?_eq_some h
  split at hmem
  · exact Xml.Element.mem_all_of_mem_elements hmem
  · cases hchild : e.child? schemaUri "simpleType" with
    | none =>
      rw [hchild] at hmem
      exact Xml.Element.mem_all_of_mem_elements hmem
    | some child =>
      rw [hchild] at hmem
      exact Xml.Element.all_subset_of_mem
        (Xml.Element.mem_all_of_mem_elements (List.mem_of_find?_eq_some hchild))
        (Xml.Element.mem_all_of_mem_elements hmem)

/-! ## Names of properties -/

namespace SimpleType

variable {catalog : Catalog} {schema : Schema} {name : String} {e : Xml.Element}

theorem name_ofBase (inner : Report (Option Property)) :
    (ofBase schema name e inner).value.name = name := by
  unfold ofBase
  split
  · rfl
  · rw [Report.value_bind]
    split <;> rfl

theorem name_withFacets (property : Property) :
    (withFacets catalog schema e property).value.name = property.name := by
  simp only [withFacets]
  split <;> rfl

theorem name_restricted (inner : Report (Option Property)) :
    (restricted catalog schema name e inner).value.name = name := by
  rw [restricted, Report.value_bind, name_withFacets, name_ofBase]

theorem name_listed (inner : Report (Option Property)) :
    (listed schema name e inner).value.name = name := by
  unfold listed
  split <;> rfl

/-- The values of a simple type make a property of the name that is asked for. -/
theorem name_property? {property : Property}
    (h : (property? catalog schema name e).value = some property) : property.name = name := by
  rw [property?] at h
  split at h
  · cases h
  · rw [Report.value_map, Option.some.injEq] at h
    rw [← h]
    split
    · exact name_restricted _
    · split
      · exact name_listed _
      · rfl

end SimpleType

namespace Member

variable {catalog : Catalog} {schema : Schema} {e holder : Xml.Element} {property : Property}

/-- The name of an element or attribute: that of what it refers to, or its own. -/
def nameOf (e : Xml.Element) : String :=
  match e.attribute? "ref" with
  | some reference => (QName.split reference).2
  | none => e.attributeD "name"

theorem name_ofDeclaration :
    (ofDeclaration catalog schema e).value.name = e.attributeD "name" := by
  unfold ofDeclaration
  split
  · rfl
  · rw [Report.value_bind]
    cases hproperty : (SimpleType.property? catalog schema (e.attributeD "name") e).value with
    | none => rfl
    | some property => exact SimpleType.name_property? hproperty

/-- The property of an element has the name of the element. -/
theorem name_ofElement : (ofElement catalog schema e).value.name = nameOf e := by
  simp only [ofElement, Report.value_bind, Report.value_pure, ofSingleElement, nameOf]
  cases e.attribute? "ref" with
  | some reference =>
    simp only [ofElementReference, Report.value_bind, Report.value_pure, Schema.value_expand,
      QName.name_meaning]
  | none => exact name_ofDeclaration

/-- The property of an attribute has the name of the attribute. -/
theorem name_ofAttribute (h : (ofAttribute catalog schema e).value = some property) :
    property.name = nameOf e := by
  unfold ofAttribute at h
  unfold nameOf
  cases href : e.attribute? "ref" with
  | none =>
    simp only [href, Report.value_map, Option.some.injEq] at h
    rw [← h]
    exact name_ofDeclaration
  | some reference =>
    simp only [href, ofAttributeReference, Report.value_bind, Schema.value_expand] at h
    have hlocal := QName.name_meaning e.scope schema.target reference
    generalize QName.meaning e.scope schema.target reference = key at h hlocal
    cases hfound : catalog.declaration? "attribute" key with
    | some found =>
      -- The global attribute that is found has the name that it was looked up by.
      obtain ⟨declaring, declaration⟩ := found
      obtain ⟨-, -, -, hname⟩ := Catalog.declaration?_eq_some hfound
      simp only [hfound, Report.value_map, Option.some.injEq] at h
      rw [← h, name_ofDeclaration, Xml.Element.attributeD, hname, Option.getD_some, hlocal]
    | none =>
      simp only [hfound] at h
      split at h
      · rw [Report.value_pure, Option.some.injEq] at h
        rw [← h, hlocal]
      · cases h

/-- The properties of a holder have the names of elements in it. -/
theorem exists_of_mem_elements (h : property ∈ (elements catalog schema holder).value) :
    ∃ e ∈ holder.inside schemaUri "element", property.name = nameOf e := by
  rw [elements, Report.value_each] at h
  obtain ⟨e, he, rfl⟩ := List.mem_map.1 h
  exact ⟨e, he, name_ofElement⟩

/-- And of attributes. -/
theorem exists_of_mem_attributes (h : property ∈ (attributes catalog schema holder).value) :
    ∃ e ∈ holder.inside schemaUri "attribute", property.name = nameOf e := by
  rw [attributes, Report.value_map, Report.value_each, List.reduceOption_mem_iff] at h
  obtain ⟨e, he, hproperty⟩ := List.mem_map.1 h
  exact ⟨e, (List.mem_filter.1 he).1, name_ofAttribute hproperty⟩

end Member

/-! ## Descriptors -/

/-- A type has a parent or a property of the name of values, not both. -/
def TypeDescriptor.Exclusive (valueName : String) (type : TypeDescriptor) : Prop :=
  type.parent = none ∨ ∀ property ∈ type.properties, property.name ≠ valueName

/-- Every type of a map has a parent or a value. -/
def TypeMap.Exclusive (valueName : String) (types : TypeMap) : Prop :=
  ∀ key type, types.get? key = some type → type.Exclusive valueName

theorem TypeMap.Exclusive.insert {valueName : String} {types : TypeMap} {key : ExpandedName}
    {type : TypeDescriptor} (h : types.Exclusive valueName) (htype : type.Exclusive valueName) :
    TypeMap.Exclusive valueName (SortedMap.insert types key type) := by
  intro key' type' hget
  rw [SortedMap.get?_insert] at hget
  split at hget
  · exact Option.some.inj hget ▸ htype
  · exact h key' type' hget

/-- No element or attribute in an element is called like values are. -/
def FreeOfValues (valueName : String) (e : Xml.Element) : Prop :=
  ∀ member ∈ e.all, member.hasTag schemaUri "element" || member.hasTag schemaUri "attribute" →
    Member.nameOf member ≠ valueName

instance (valueName : String) (e : Xml.Element) : Decidable (FreeOfValues valueName e) :=
  inferInstanceAs (Decidable (∀ member ∈ e.all,
    member.hasTag schemaUri "element" || member.hasTag schemaUri "attribute" →
      Member.nameOf member ≠ valueName))

theorem FreeOfValues.of_mem {valueName : String} {root e : Xml.Element}
    (h : FreeOfValues valueName root) (hmem : e ∈ root.all) : FreeOfValues valueName e :=
  fun member hmember => h member (Xml.Element.all_subset_of_mem hmem hmember)

namespace Member

variable {catalog : Catalog} {schema : Schema} {holder : Xml.Element} {property : Property}
variable {valueName : String}

/-- What is free of values has elements without the name of values. -/
theorem name_ne_of_mem_elements (h : FreeOfValues valueName holder)
    (hmem : property ∈ (elements catalog schema holder).value) : property.name ≠ valueName := by
  obtain ⟨member, hmember, hname⟩ := exists_of_mem_elements hmem
  rw [hname]
  refine h member (Xml.Element.mem_all_of_mem_inside hmember) ?_
  simp only [(List.mem_filter.1 hmember).2, Bool.true_or]

/-- And such attributes. -/
theorem name_ne_of_mem_attributes (h : FreeOfValues valueName holder)
    (hmem : property ∈ (attributes catalog schema holder).value) : property.name ≠ valueName := by
  obtain ⟨member, hmember, hname⟩ := exists_of_mem_attributes hmem
  rw [hname]
  refine h member (Xml.Element.mem_all_of_mem_inside hmember) ?_
  simp only [(List.mem_filter.1 hmember).2, Bool.or_true]

end Member

namespace Declaration

variable {config : Config} {catalog : Catalog} {schema : Schema} {e content : Xml.Element}

/-- The properties of a complex content are called like what is in it. -/
theorem name_ne_of_mem_complexBody {valueName : String} (h : FreeOfValues valueName content)
    {property : Property}
    (hmem : property ∈ (complexBody catalog schema content).value.properties) :
    property.name ≠ valueName := by
  simp only [complexBody, Report.value_bind, Report.value_pure, List.mem_append] at hmem
  rcases hmem with hmem | hmem
  · exact Member.name_ne_of_mem_elements h hmem
  · exact Member.name_ne_of_mem_attributes h hmem

/-- A body has a parent only where its content is complex. -/
theorem exclusive_body (h : FreeOfValues config.valueName e) :
    (body config catalog schema e).value.parent = none ∨
      ∀ property ∈ (body config catalog schema e).value.properties,
        property.name ≠ config.valueName := by
  unfold body
  split
  · left
    unfold simpleBody
    split <;> rfl
  · split
    · rename_i content hcontent
      have hmem : content ∈ e.all := List.mem_of_find?_eq_some hcontent
      exact Or.inr fun property hproperty => name_ne_of_mem_complexBody (h.of_mem hmem) hproperty
    · exact Or.inl rfl

theorem exclusive_describe (h : FreeOfValues config.valueName e) (name : String) :
    (describe config catalog schema e name).value.Exclusive config.valueName := by
  unfold describe
  split
  · exact Or.inl rfl
  · exact exclusive_body h

/-- **A descriptor has a parent or a value.** -/
theorem exclusive_describeAny (h : FreeOfValues config.valueName e) {type : TypeDescriptor}
    (htype : (describeAny config catalog schema e).value = some type) :
    type.Exclusive config.valueName := by
  rcases describeAny_cases htype with ⟨-, name, target, rfl⟩ | ⟨-, name, rfl⟩
  · exact Or.inr fun _ hmem => absurd hmem List.not_mem_nil
  · exact exclusive_describe h name

end Declaration

namespace Walk

variable {config : Config} {catalog : Catalog} {walk : Walk} {schema : Schema}
variable {e : Xml.Element} {type : TypeDescriptor}

/-- What is left of a merge has a parent or a value. -/
theorem exclusive_dropParent :
    (dropParent config schema e type).value.Exclusive config.valueName := by
  rw [value_dropParent]
  split
  · exact Or.inl rfl
  · rename_i hnone
    refine Or.inr fun property hmem hname => hnone ?_
    exact List.find?_isSome.2 ⟨property, hmem, by simpa using hname⟩

/-- **A declaration leaves every type with a parent or a value**, be its name new or taken. -/
theorem exclusive_declare {d : Schema × Xml.Element} (hfree : FreeOfValues config.valueName d.2)
    (h : walk.types.Exclusive config.valueName) :
    (declare config catalog walk d).value.types.Exclusive config.valueName := by
  cases hdescribe : (Declaration.describeAny config catalog d.1 d.2).value with
  | none => rwa [value_declare_of_none hdescribe]
  | some type =>
    rw [value_declare_of_some hdescribe]
    cases hget : walk.types.get? type.key with
    | none =>
      rw [enter_of_get?_eq_none hget]
      exact h.insert (Declaration.exclusive_describeAny hfree hdescribe)
    | some older =>
      rw [value_enter_of_get?_eq_some hget]
      exact h.insert exclusive_dropParent

theorem exclusive_documents {start : TypeMap} {order : List Nat}
    (hfree : ∀ d ∈ catalog.declarationsOf order, FreeOfValues config.valueName d.2)
    (h : start.Exclusive config.valueName) :
    (documents config catalog start order).value.types.Exclusive config.valueName := by
  rw [documents_eq_fold]
  exact Report.fold_induction
    (P := fun walk : Walk => walk.types.Exclusive config.valueName)
    (fun _ d hd hwalk => exclusive_declare (hfree d hd) hwalk) h

end Walk

end WsdlTypes
