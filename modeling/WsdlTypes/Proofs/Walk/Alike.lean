import WsdlTypes.Proofs.Walk.Lookup
/-!
# Descriptors from two catalogs

Nothing is read of a catalog but what is looked up in it. So where two catalogs are alike in what
a declaration has looked up, the declaration has the same descriptor with both, but for where it
says that the declaration stands (`Alike.describeAny_eq`).
-/

namespace WsdlTypes

variable {own : List Lookup} {catalog catalog' : Catalog} {schema schema' : Schema}
variable {e restriction : Xml.Element} {name : String}

/-! ## Simple types -/

namespace SimpleType

/-- A derivation that is called a restriction is one. -/
theorem mem_descendants_of_derivation? {derivation : Xml.Element}
    (h : derivation? e = some derivation) (hname : derivation.name = "restriction") :
    derivation ∈ e.descendants schemaUri "restriction" := by
  refine List.mem_filter.2 ⟨mem_all_of_derivation? h, ?_⟩
  have htag := List.find?_some h
  obtain ⟨tag, -, htag⟩ := List.any_eq_true.1 htag
  simp only [Xml.Element.hasTag, Bool.and_eq_true, beq_iff_eq] at htag ⊢
  exact ⟨htag.1, hname⟩

/-- What a type's name means is another declaration only under that declaration's name. -/
theorem meaning_of_type_eq_reference {key meaning : ExpandedName}
    (h : (TypeName.ofKey meaning).type = .reference key) : meaning = key ∧ key.uri ≠ schemaUri := by
  unfold TypeName.ofKey at h
  split at h
  · cases h
  · rename_i huri
    obtain rfl : meaning = key := by simpa [TypeName.type] using h
    exact ⟨rfl, huri⟩

/-- A base that is another declaration is named in the restriction. -/
theorem mem_bases_of_ofBase {inner : Report (Option Property)} {key : ExpandedName}
    (htag : restriction.hasTag schemaUri "restriction" = true)
    (hinner : ∀ property, inner.value = some property → property.type = .reference key →
      ⟨"simpleType", key⟩ ∈ Lookup.bases schema.target restriction)
    (h : (ofBase schema name restriction inner).value.type = .reference key) :
    ⟨"simpleType", key⟩ ∈ Lookup.bases schema.target restriction := by
  unfold ofBase at h
  cases hbase : restriction.attribute? "base" with
  | some base =>
    simp only [hbase, Report.value_bind, Report.value_pure, Schema.value_typeName] at h
    obtain ⟨hkey, huri⟩ := meaning_of_type_eq_reference h
    exact Lookup.mem_bases (List.mem_filter.2 ⟨Xml.Element.self_mem_all _, htag⟩) hbase hkey huri
  | none =>
    simp only [hbase, Report.value_bind] at h
    cases hproperty : inner.value with
    | none => simp [hproperty, Property.untyped] at h
    | some property => exact hinner property hproperty (by simpa [hproperty] using h)

/-- A property is of another declaration's type only where no values are listed. -/
theorem type_withFacets {property : Property} {key : ExpandedName}
    (h : (withFacets catalog schema restriction property).value.type = .reference key) :
    property.type = .reference key := by
  unfold withFacets at h
  cases hvalues : enumeration restriction with
  | nil => simpa [hvalues] using h
  | cons first rest =>
    simp only [hvalues, Report.value_bind, Report.value_pure] at h
    unfold enumerationType at h
    split at h
    · rw [Report.value_bind] at h
      split at h <;> cases h
    · exact h

/-- The values of a simple type are of another declaration's type only where a restriction in it
names this. -/
theorem mem_bases_of_property? {property : Property} {key : ExpandedName}
    (hproperty : (property? catalog schema name e).value = some property)
    (htype : property.type = .reference key) :
    ⟨"simpleType", key⟩ ∈ Lookup.bases schema.target e := by
  fun_induction SimpleType.property? catalog schema name e generalizing property with
  | case1 e hnone => cases hproperty
  | case2 e derivation hderivation inner =>
    rename_i ih
    rw [Report.value_map, Option.some.injEq] at hproperty
    subst hproperty
    refine Lookup.bases_subset (mem_all_of_derivation? hderivation) ?_
    split at htype
    · rename_i hrestriction
      have htag := (List.mem_filter.1 (mem_descendants_of_derivation? hderivation hrestriction)).2
      rw [restricted, Report.value_bind] at htype
      exact mem_bases_of_ofBase htag (fun property hproperty => ih hproperty)
        (type_withFacets htype)
    · split at htype
      · -- What a list is of is an array.
        unfold listed at htype
        split at htype <;> cases htype
      · cases htype

end SimpleType

namespace Catalog.Alike

open SimpleType

variable (h : Alike own catalog catalog') (htarget : schema'.target = schema.target)

include h in
/-- The type of listed values is the same. -/
theorem enumerationType_eq {type : ResolvedType}
    (hlookup : ∀ key, type = .reference key → catalog.LooksUp own ⟨"simpleType", key⟩) :
    (enumerationType catalog' schema' restriction type).value
      = (enumerationType catalog schema restriction type).value := by
  unfold enumerationType
  split
  · rename_i base
    simp only [Report.value_bind, h.scalarBase_eq fun _ => hlookup base rfl]
    split <;> rfl
  · rfl

include h in
/-- So is a property with facets. -/
theorem withFacets_eq {property : Property}
    (hlookup : enumeration restriction ≠ [] → ∀ key, property.type = .reference key →
      catalog.LooksUp own ⟨"simpleType", key⟩) :
    (withFacets catalog' schema' restriction property).value
      = (withFacets catalog schema restriction property).value := by
  unfold withFacets
  cases hvalues : enumeration restriction with
  | nil => rfl
  | cons first rest =>
    simp only [Report.value_bind, Report.value_pure]
    have htype : (enumerationType catalog' schema' restriction property.type).value
        = (enumerationType catalog schema restriction property.type).value :=
      h.enumerationType_eq (hlookup (by simp [hvalues]))
    rw [htype]

include htarget in
theorem ofBase_eq {inner inner' : Report (Option Property)} (hinner : inner'.value = inner.value) :
    (ofBase schema' name restriction inner').value
      = (ofBase schema name restriction inner).value := by
  unfold ofBase
  split
  · simp only [Report.value_bind, Schema.value_typeName, htarget, Report.value_pure]
  · simp only [Report.value_bind, hinner]

include htarget in
theorem listed_eq {inner inner' : Report (Option Property)} (hinner : inner'.value = inner.value) :
    (listed schema' name e inner').value = (listed schema name e inner).value := by
  unfold listed
  split
  · simp only [Report.value_bind, Schema.value_typeName, htarget, Report.value_pure]
  · simp only [Report.value_bind, hinner, Report.value_pure]

include h htarget in
/-- What a restriction makes is the same if what is in it is. -/
theorem restricted_eq (hrestriction : restriction ∈ e.descendants schemaUri "restriction")
    (hown : ∀ lookup ∈ Lookup.inside schema.target e, catalog.LooksUp own lookup)
    (hinner : (property? catalog' schema' name restriction).value
      = (property? catalog schema name restriction).value) :
    (restricted catalog' schema' name restriction
        (property? catalog' schema' name restriction)).value
      = (restricted catalog schema name restriction
        (property? catalog schema name restriction)).value := by
  simp only [restricted, Report.value_bind, ofBase_eq htarget hinner]
  refine h.withFacets_eq fun hlisted key htype => hown _ ?_
  have htag : restriction.hasTag schemaUri "restriction" = true :=
    (List.mem_filter.1 hrestriction).2
  exact Lookup.mem_inside_of_listed hrestriction hlisted
    (mem_bases_of_ofBase htag (fun _ => mem_bases_of_property?) htype)

include h htarget in
/-- **The values of a simple type make the same property.** -/
theorem property?_eq
    (hown : ∀ lookup ∈ Lookup.inside schema.target e, catalog.LooksUp own lookup) :
    (property? catalog' schema' name e).value = (property? catalog schema name e).value := by
  fun_induction SimpleType.property? catalog schema name e with
  | case1 e hnone =>
    rw [property?]
    split
    · rfl
    · rename_i hsome
      rw [hnone] at hsome
      cases hsome
  | case2 e derivation hderivation inner =>
    rename_i ih
    have hmem := mem_all_of_derivation? hderivation
    have hinner := ih fun lookup hlookup => hown lookup (Lookup.inside_subset hmem hlookup)
    rw [property?]
    split
    · rename_i hnone
      rw [hderivation] at hnone
      cases hnone
    · rename_i derivation' hderivation'
      obtain rfl : derivation = derivation' := Option.some.inj (hderivation.symm.trans hderivation')
      simp only [Report.value_map]
      split
      · rename_i hname
        rw [h.restricted_eq htarget (mem_descendants_of_derivation? hderivation hname) hown hinner]
      · split
        · rw [listed_eq htarget hinner]
        · rfl

/-! ## Members -/

open Member

variable (hown : ∀ lookup ∈ Lookup.inside schema.target e, catalog.LooksUp own lookup)

include h htarget hown

theorem ofDeclaration_eq :
    (ofDeclaration catalog' schema' e).value = (ofDeclaration catalog schema e).value := by
  unfold ofDeclaration
  split
  · simp only [Report.value_bind, Schema.value_typeName, htarget, Report.value_pure]
  · simp only [Report.value_bind, h.property?_eq htarget hown, Report.value_pure]

/-- A reference to a global element has the same property: a scalar, or that of the element. -/
theorem ofElement_eq (htag : e.hasTag schemaUri "element" = true) :
    (ofElement catalog' schema' e).value = (ofElement catalog schema e).value := by
  have hsingle : (ofSingleElement catalog' schema' e).value
      = (ofSingleElement catalog schema e).value := by
    unfold ofSingleElement
    cases href : e.attribute? "ref" with
    | none => exact h.ofDeclaration_eq htarget hown
    | some reference =>
      have hlookup := hown _ (Lookup.mem_inside_of_element htag href)
      simp only [ofElementReference, Report.value_bind, Report.value_pure, Schema.value_expand,
        htarget, h.builtinElement?_eq hlookup]
  simp only [ofElement, Report.value_bind, Report.value_pure, hsingle]

/-- A reference to a global attribute has the property of the attribute. -/
theorem ofAttribute_eq (htag : e.hasTag schemaUri "attribute" = true)
    (huse : (e.attribute? "use" != some "prohibited") = true) :
    (ofAttribute catalog' schema' e).value = (ofAttribute catalog schema e).value := by
  unfold ofAttribute
  cases href : e.attribute? "ref" with
  | none => simp only [Report.value_map, h.ofDeclaration_eq htarget hown]
  | some reference =>
    have hlookup := hown _ (Lookup.mem_inside_of_attribute htag huse href)
    simp only [ofAttributeReference, Report.value_bind, Schema.value_expand, htarget]
    rcases h.found hlookup with ⟨hnone, hnone'⟩ |
      ⟨found, found', declaration, hfound, hfound', ht, ht'⟩
    · simp only [hnone, hnone']
      split <;> rfl
    · simp only [hfound, hfound', Report.value_map]
      rw [h.ofDeclaration_eq (ht'.trans ht.symm) fun lookup hmem =>
        LooksUp.global hlookup hfound (ht ▸ hmem)]

/-- The elements and the attributes in a part of a declaration have the same properties. -/
theorem elements_eq {part : Xml.Element} (hpart : part ∈ e.all) :
    (elements catalog' schema' part).value = (elements catalog schema part).value := by
  simp only [elements, Report.value_each]
  refine List.map_congr_left fun member hmember => ?_
  have hmem : member ∈ e.all :=
    Xml.Element.all_subset_of_mem hpart (Xml.Element.mem_all_of_mem_inside hmember)
  exact h.ofElement_eq htarget
    (fun lookup hlookup => hown lookup (Lookup.inside_subset hmem hlookup))
    (List.mem_filter.1 hmember).2

theorem attributes_eq {part : Xml.Element} (hpart : part ∈ e.all) :
    (attributes catalog' schema' part).value = (attributes catalog schema part).value := by
  simp only [attributes, Report.value_map, Report.value_each]
  congr 1
  refine List.map_congr_left fun member hmember => ?_
  obtain ⟨hinside, huse⟩ := List.mem_filter.1 hmember
  have hmem : member ∈ e.all :=
    Xml.Element.all_subset_of_mem hpart (Xml.Element.mem_all_of_mem_inside hinside)
  exact h.ofAttribute_eq htarget
    (fun lookup hlookup => hown lookup (Lookup.inside_subset hmem hlookup))
    (List.mem_filter.1 hinside).2 huse

/-! ## Descriptors -/

open Declaration

variable {config : Config}

theorem simpleBody_eq {content : Xml.Element} (hcontent : content ∈ e.all) :
    (simpleBody config catalog' schema' content).value
      = (simpleBody config catalog schema content).value := by
  unfold simpleBody
  cases hderivation : contentDerivation? content with
  | none => rfl
  | some derivation =>
    have hmem : derivation ∈ e.all := by
      refine Xml.Element.all_subset_of_mem hcontent ?_
      rw [Xml.Element.all_eq]
      exact List.mem_cons_of_mem _
        (Xml.Content.elements_subset_all _ (List.mem_of_find?_eq_some hderivation))
    have hinner : ∀ lookup ∈ Lookup.inside schema.target derivation, catalog.LooksUp own lookup :=
      fun lookup hlookup => hown lookup (Lookup.inside_subset hmem hlookup)
    have hvalue : (contentValue catalog' schema' config.valueName derivation).value
        = (contentValue catalog schema config.valueName derivation).value := by
      unfold contentValue
      split
      · rename_i htag
        exact h.restricted_eq htarget (List.mem_filter.2 ⟨hmem, htag⟩) hown
          (h.property?_eq htarget hinner)
      · exact ofBase_eq htarget rfl
    simp only [Report.value_bind, Report.value_pure, hvalue, h.attributes_eq htarget hown hmem]

omit h hown in
theorem extended?_eq {content : Xml.Element} :
    (extended? schema' content).value = (extended? schema content).value := by
  unfold extended?
  split
  · rfl
  · split
    · rfl
    · simp only [Report.value_bind, Schema.value_typeName, htarget]

theorem plainMembers_eq :
    (plainMembers config catalog' schema' e).value
      = (plainMembers config catalog schema e).value := by
  simp only [plainMembers, Report.value_bind,
    h.elements_eq htarget hown (Xml.Element.self_mem_all e)]
  split
  · simp only [Report.value_bind, Report.value_pure, h.property?_eq htarget hown]
  · rfl

/-- **The body of a declaration is the same**, be its content simple, complex or plain. -/
theorem body_eq :
    (body config catalog' schema' e).value = (body config catalog schema e).value := by
  have hself := Xml.Element.self_mem_all e
  unfold body
  split
  · rename_i content hcontent
    exact h.simpleBody_eq htarget hown (List.mem_of_find?_eq_some hcontent)
  · split
    · rename_i content hcontent
      have hmem : content ∈ e.all := List.mem_of_find?_eq_some hcontent
      simp only [complexBody, Report.value_bind, Report.value_pure, extended?_eq htarget,
        h.elements_eq htarget hown hmem, h.attributes_eq htarget hown hmem]
    · simp only [plainBody, Report.value_bind, Report.value_pure, h.plainMembers_eq htarget hown,
        h.attributes_eq htarget hown hself]

end Catalog.Alike

/-- A type that is said to be declared elsewhere. -/
def TypeDescriptor.movedTo (location : String) (type : TypeDescriptor) : TypeDescriptor :=
  { type with location }

namespace Catalog.Alike

open Declaration

variable {config : Config} (h : Alike own catalog catalog')
variable (htarget : schema'.target = schema.target)
variable (hown : ∀ lookup ∈ Lookup.ofDeclaration schema.target e, catalog.LooksUp own lookup)

include htarget

theorem outline_eq : outline config schema' e name
    = (outline config schema e name).movedTo schema'.location := by
  simp only [outline, TypeDescriptor.movedTo, TypeDescriptor.ofKey, htarget]

include h hown

theorem describe_eq : (describe config catalog' schema' e name).value
    = (describe config catalog schema e name).value.movedTo schema'.location := by
  unfold describe
  by_cases hnested : isNested e = true
  · simp only [if_pos hnested, Report.value_bind, Report.value_pure, outline_eq htarget]
  · rw [Lookup.ofDeclaration, if_neg hnested] at hown
    simp only [if_neg hnested, Report.value_bind, Report.value_pure, outline_eq htarget,
      h.body_eq htarget hown]
    rfl

/-- **A declaration has the same descriptor with both catalogs**, but for where it stands. -/
theorem describeAny_eq : (describeAny config catalog' schema' e).value
    = (describeAny config catalog schema e).value.map
      (TypeDescriptor.movedTo schema'.location) := by
  unfold describeAny
  split
  · unfold describeElement
    split
    · rfl
    · simp only [Report.value_map, Option.map_some, h.describe_eq htarget hown]
    · split
      · simp only [Report.value_map, Option.map_some, h.describe_eq htarget hown]
      · simp only [Report.value_bind, Schema.value_typeName, htarget]
        split
        · rfl
        · split
          · rfl
          · simp only [Report.value_pure, Option.map_some, extending, outline_eq htarget]
            rfl
  · unfold describeType
    split
    · rfl
    · simp only [Report.value_map, Option.map_some, h.describe_eq htarget hown]

end Catalog.Alike

/-- A descriptor says that it stands where its schema does. -/
theorem Declaration.location_describeAny {config : Config} {type : TypeDescriptor}
    (h : (describeAny config catalog schema e).value = some type) :
    type.location = schema.location := by
  have halike : Catalog.Alike (Lookup.ofDeclaration schema.target e) catalog catalog :=
    fun _ _ => rfl
  have hmoved : (describeAny config catalog schema e).value
      = (describeAny config catalog schema e).value.map (TypeDescriptor.movedTo schema.location) :=
    halike.describeAny_eq rfl fun _ hown => Catalog.LooksUp.own hown
  rw [h, Option.map_some, Option.some.injEq] at hmoved
  rw [hmoved]
  rfl

end WsdlTypes
