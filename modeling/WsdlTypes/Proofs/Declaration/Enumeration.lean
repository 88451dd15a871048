import WsdlTypes.Proofs.Declaration.Inline
import WsdlTypes.Proofs.Declaration.Members
/-!
# Properties with listed values

A restriction that lists values makes them the values of its property, and where the base is a
declaration a scalar is found for it. A base that is declared in place as a list of a declaration
is an array of this, though, and stays one. So the type of listed values is a scalar, or made of
scalars, unless what a restriction declares in place comes down to a list of a declaration
(`Declaration.enumerated_properties`). When it does is told by the elements alone
(`SimpleType.ComesDown`).
-/

namespace WsdlTypes

/-! ## Types that come down to a declaration -/

/-- Where a type comes down to a declaration, whether by way of an array. -/
def ResolvedType.byArray? (type : ResolvedType) : Option Bool :=
  type.reference?.map fun _ => type.isArray

namespace ResolvedType

variable {type : ResolvedType}

theorem byArray?_array (element : ResolvedType) :
    (array element).byArray? = element.byArray?.map fun _ => true := by
  rw [byArray?, byArray?, reference?_array]
  cases element.reference? <;> rfl

/-- A type comes down to a scalar or to a declaration. -/
theorem byArray?_eq_none_iff : type.byArray? = none ↔ ∃ kind, type.item = .scalar kind := by
  have hitem := isArray_item type
  rw [byArray?, reference?]
  cases h : type.item with
  | scalar kind => simp
  | reference key => simp
  | array element =>
    rw [h] at hitem
    cases hitem

end ResolvedType

theorem TypeName.byArray?_type (key : ExpandedName) :
    (TypeName.ofKey key).type.byArray? = if key.uri = schemaUri then none else some false := by
  unfold ofKey
  split <;> rfl

namespace SimpleType

/-- The values of the simple type in an element come down to a declaration: `listed` tells whether
there is a list on the way. Listed values put an end to it, for a base that is no list. -/
inductive ComesDown (target : String) : Bool → Xml.Element → Prop where
  | base {e restriction : Xml.Element} {base : String}
      (hderivation : derivation? e = some restriction) (htag : restriction.name = "restriction")
      (hbase : restriction.attribute? "base" = some base)
      (hdeclared : (QName.meaning restriction.scope target base).uri ≠ schemaUri)
      (hvalues : enumeration restriction = []) : ComesDown target false e
  | restriction {e restriction : Xml.Element} {listed : Bool}
      (hderivation : derivation? e = some restriction) (htag : restriction.name = "restriction")
      (hbase : restriction.attribute? "base" = none) (hinner : ComesDown target listed restriction)
      (hvalues : listed = true ∨ enumeration restriction = []) : ComesDown target listed e
  | item {e list : Xml.Element} {item : String}
      (hderivation : derivation? e = some list) (htag : list.name = "list")
      (hitem : list.attribute? "itemType" = some item)
      (hdeclared : (QName.meaning list.scope target item).uri ≠ schemaUri) : ComesDown target true e
  | list {e list : Xml.Element} {listed : Bool}
      (hderivation : derivation? e = some list) (htag : list.name = "list")
      (hitem : list.attribute? "itemType" = none) (hinner : ComesDown target listed list) :
      ComesDown target true e

section

variable {catalog : Catalog} {schema : Schema} {name : String} {e derivation : Xml.Element}
variable {inner : Report (Option Property)} {property : Property} {listed : Bool}

/-! ## What the functions make of a type -/

/-- Listed values have a scalar type, or keep an array. -/
theorem byArray?_enumerationType (type : ResolvedType) :
    (enumerationType catalog schema e type).value.byArray?
      = type.byArray?.filter fun listed => listed := by
  cases type with
  | scalar => rfl
  | array element =>
    show (ResolvedType.array element).byArray? = _
    rw [ResolvedType.byArray?_array]
    cases element.byArray? <;> rfl
  | reference base =>
    simp only [enumerationType, Report.value_bind]
    cases (catalog.scalarBase [] base).value <;> rfl

theorem byArray?_withFacets (property : Property) :
    (withFacets catalog schema e property).value.type.byArray?
      = property.type.byArray?.filter fun listed => listed || (enumeration e).isEmpty := by
  unfold withFacets
  cases henumeration : enumeration e with
  | nil =>
    simp only [Report.value_pure, List.isEmpty_nil, Bool.or_true]
    cases property.type.byArray? <;> rfl
  | cons first rest =>
    simp only [Report.value_bind, Report.value_pure, byArray?_enumerationType, List.isEmpty_cons,
      Bool.or_false]

theorem enumeration_withFacets (h : property.enumeration = none) :
    (withFacets catalog schema e property).value.enumeration
      = if enumeration e = [] then none else some (enumeration e) := by
  unfold withFacets
  cases enumeration e with
  | nil => exact h
  | cons first rest => rfl

theorem byArray?_ofBase : (ofBase schema name e inner).value.type.byArray? =
    match e.attribute? "base" with
    | some base =>
      if (QName.meaning e.scope schema.target base).uri = schemaUri then none else some false
    | none => inner.value.bind fun property => property.type.byArray? := by
  unfold ofBase
  cases e.attribute? "base" with
  | some base =>
    simp only [Report.value_bind, Report.value_pure, Schema.value_typeName, TypeName.byArray?_type]
  | none =>
    simp only [Report.value_bind]
    cases inner.value <;> rfl

theorem enumeration_ofBase : (ofBase schema name e inner).value.enumeration = none := by
  unfold ofBase
  cases e.attribute? "base" with
  | some base => rfl
  | none =>
    simp only [Report.value_bind]
    cases inner.value <;> rfl

theorem byArray?_listed : (SimpleType.listed schema name e inner).value.type.byArray? =
    match e.attribute? "itemType" with
    | some item =>
      if (QName.meaning e.scope schema.target item).uri = schemaUri then none else some true
    | none => (inner.value.bind fun property => property.type.byArray?).map fun _ => true := by
  unfold SimpleType.listed
  cases e.attribute? "itemType" with
  | some item =>
    simp only [Report.value_bind, Report.value_pure, Schema.value_typeName,
      ResolvedType.byArray?_array, TypeName.byArray?_type]
    split <;> rfl
  | none =>
    simp only [Report.value_bind, Report.value_pure, ResolvedType.byArray?_array]
    cases inner.value <;> rfl

theorem byArray?_restricted_eq_some_iff :
    (restricted catalog schema name e inner).value.type.byArray? = some listed ↔
      (listed = true ∨ enumeration e = []) ∧
        (match e.attribute? "base" with
          | some base => listed = false ∧
            (QName.meaning e.scope schema.target base).uri ≠ schemaUri
          | none => (inner.value.bind fun property => property.type.byArray?) = some listed) := by
  rw [restricted, Report.value_bind, byArray?_withFacets, byArray?_ofBase,
    Option.filter_eq_some_iff, Bool.or_eq_true, List.isEmpty_iff, and_comm]
  refine and_congr_right fun _ => ?_
  cases e.attribute? "base" with
  | some base =>
    by_cases huri : (QName.meaning e.scope schema.target base).uri = schemaUri
    · simp [huri]
    · simp [huri, eq_comm]
  | none => rfl

theorem byArray?_listed_eq_some_iff :
    (SimpleType.listed schema name e inner).value.type.byArray? = some listed ↔
      listed = true ∧
        (match e.attribute? "itemType" with
          | some item => (QName.meaning e.scope schema.target item).uri ≠ schemaUri
          | none => ∃ listed,
            (inner.value.bind fun property => property.type.byArray?) = some listed) := by
  rw [byArray?_listed]
  cases e.attribute? "itemType" with
  | some item =>
    by_cases huri : (QName.meaning e.scope schema.target item).uri = schemaUri
    · simp [huri]
    · simp [huri, eq_comm]
  | none =>
    rw [Option.map_eq_some_iff]
    constructor
    · rintro ⟨item, hitem, heq⟩
      exact ⟨heq.symm, item, hitem⟩
    · rintro ⟨heq, item, hitem⟩
      exact ⟨item, hitem, heq.symm⟩

/-! ## When the values come down to a declaration -/

/-- One derivation of the way down. -/
theorem comesDown_iff_of_derivation? {target : String} (h : derivation? e = some derivation) :
    ComesDown target listed e ↔
      derivation.name = "restriction" ∧ (listed = true ∨ enumeration derivation = []) ∧
        (match derivation.attribute? "base" with
          | some base => listed = false ∧
            (QName.meaning derivation.scope target base).uri ≠ schemaUri
          | none => ComesDown target listed derivation) ∨
      derivation.name = "list" ∧ listed = true ∧
        (match derivation.attribute? "itemType" with
          | some item => (QName.meaning derivation.scope target item).uri ≠ schemaUri
          | none => ∃ listed, ComesDown target listed derivation) := by
  constructor
  · intro hdown
    cases hdown with
    | base hderivation htag hbase hdeclared hvalues =>
      cases h.symm.trans hderivation
      rw [hbase]
      exact Or.inl ⟨htag, Or.inr hvalues, rfl, hdeclared⟩
    | restriction hderivation htag hbase hinner hvalues =>
      cases h.symm.trans hderivation
      rw [hbase]
      exact Or.inl ⟨htag, hvalues, hinner⟩
    | item hderivation htag hitem hdeclared =>
      cases h.symm.trans hderivation
      rw [hitem]
      exact Or.inr ⟨htag, rfl, hdeclared⟩
    | list hderivation htag hitem hinner =>
      cases h.symm.trans hderivation
      rw [hitem]
      exact Or.inr ⟨htag, rfl, _, hinner⟩
  · rintro (⟨htag, hvalues, hbase⟩ | ⟨htag, rfl, hitem⟩)
    · cases hattribute : derivation.attribute? "base" with
      | some base =>
        rw [hattribute] at hbase
        obtain ⟨rfl, hdeclared⟩ := hbase
        exact .base h htag hattribute hdeclared (hvalues.resolve_left Bool.false_ne_true)
      | none =>
        rw [hattribute] at hbase
        exact .restriction h htag hattribute hbase hvalues
    · cases hattribute : derivation.attribute? "itemType" with
      | some item =>
        rw [hattribute] at hitem
        exact .item h htag hattribute hitem
      | none =>
        rw [hattribute] at hitem
        obtain ⟨listed, hinner⟩ := hitem
        exact .list h htag hattribute hinner

/-- **The property of a simple type comes down to a declaration** where its elements say so. -/
theorem byArray?_property?_iff : ((property? catalog schema name e).value.bind fun property =>
      property.type.byArray?) = some listed ↔ ComesDown schema.target listed e := by
  induction e using property?.induct catalog schema name generalizing listed with
  | case1 e hnone =>
    rw [property?_of_derivation?_eq_none catalog schema name hnone]
    constructor
    · intro h
      cases h
    · intro h
      cases h <;> simp_all
  | case2 e derivation hderivation ih =>
    rw [property?_eq_match, hderivation, comesDown_iff_of_derivation? hderivation]
    simp only [Report.value_map, Option.bind_some]
    have hother : "restriction" ≠ "list" := by decide
    by_cases hrestriction : derivation.name = "restriction"
    · rw [if_pos hrestriction, byArray?_restricted_eq_some_iff]
      simp only [ih, hrestriction, true_and, hother, false_and, or_false]
    · rw [if_neg hrestriction]
      by_cases hlist : derivation.name = "list"
      · rw [if_pos hlist, byArray?_listed_eq_some_iff]
        simp only [ih, hlist, hother.symm, false_and, false_or, true_and]
      · -- What a union comes to is text.
        rw [if_neg hlist]
        simp only [hrestriction, hlist, false_and, or_false, iff_false]
        intro h
        cases h

/-- **The type of listed values is made of scalars**, unless the base is declared in place and is a
list of a declaration. -/
theorem item_restricted_iff (hvalues : enumeration e ≠ []) :
    (∃ kind, (restricted catalog schema name e
        (property? catalog schema name e)).value.type.item = .scalar kind) ↔
      ¬(e.attribute? "base" = none ∧ ComesDown schema.target true e) := by
  rw [← ResolvedType.byArray?_eq_none_iff, Option.eq_none_iff_forall_ne_some]
  simp only [ne_eq, byArray?_restricted_eq_some_iff, hvalues, or_false]
  rw [← not_exists]
  refine not_congr ?_
  cases e.attribute? "base" with
  | some base => simp
  | none => simp [byArray?_property?_iff]

theorem enumeration_restricted (inner : Report (Option Property)) :
    (restricted catalog schema name e inner).value.enumeration
      = if enumeration e = [] then none else some (enumeration e) := by
  rw [restricted, Report.value_bind]
  exact enumeration_withFacets enumeration_ofBase

end

/-- A property has its values from a restriction: those that the restriction lists, if any, and the
type of what it makes, apart from arrays. -/
structure MadeBy (catalog : Catalog) (schema : Schema) (restriction : Xml.Element)
    (property : Property) : Prop where
  enumeration : property.enumeration = (restricted catalog schema property.name restriction
    (property? catalog schema property.name restriction)).value.enumeration
  item : property.type.item = (restricted catalog schema property.name restriction
    (property? catalog schema property.name restriction)).value.type.item

end SimpleType

/-! ## The properties of a declaration -/

open SimpleType (MadeBy)

/-- A restriction that a declaration may have values from, and the schema that it is read in: it
stands in the declaration, or in a global attribute. -/
inductive Declaration.Reaches (catalog : Catalog) (schema : Schema) (e : Xml.Element) :
    Schema → Xml.Element → Prop where
  | own {restriction : Xml.Element} (h : restriction ∈ e.all) :
      Reaches catalog schema e schema restriction
  | named {key : ExpandedName} {declaring : Schema} {declaration restriction : Xml.Element}
      (hfound : catalog.declaration? "attribute" key = some (declaring, declaration))
      (h : restriction ∈ declaration.all) : Reaches catalog schema e declaring restriction

/-- A property lists no values, or it has them from a restriction in reach. -/
def Declaration.Enumerated (catalog : Catalog) (schema : Schema) (e : Xml.Element)
    (property : Property) : Prop :=
  property.enumeration = none ∨
    ∃ declaring restriction, Reaches catalog schema e declaring restriction ∧
      MadeBy catalog declaring restriction property

open Declaration (Enumerated Reaches)

section

variable {catalog : Catalog} {schema : Schema} {e inner : Xml.Element} {property : Property}

/-- What is in reach further in is in reach. -/
theorem Declaration.Enumerated.of_mem (h : Enumerated catalog schema inner property)
    (hmem : inner ∈ e.all) : Enumerated catalog schema e property := by
  refine h.imp_right fun ⟨declaring, restriction, hreaches, hmade⟩ =>
    ⟨declaring, restriction, ?_, hmade⟩
  cases hreaches with
  | own hinside => exact .own (Xml.Element.all_subset_of_mem hmem hinside)
  | named hfound hinside => exact .named hfound hinside

/-- A simple type has listed values from its own restriction. -/
theorem SimpleType.enumerated_property? {name : String}
    (h : (property? catalog schema name e).value = some property) :
    Enumerated catalog schema e property := by
  obtain rfl := name_property? h
  rw [property?_eq_match] at h
  split at h
  · cases h
  · rename_i derivation hderivation
    rw [Report.value_map, Option.some.injEq] at h
    split at h
    · exact Or.inr ⟨schema, derivation, .own (mem_all_of_derivation? hderivation),
        congrArg Property.enumeration h.symm, congrArg (fun p => p.type.item) h.symm⟩
    · split at h
      · left
        rw [← h, listed]
        split <;> rfl
      · exact Or.inl (h ▸ rfl)

theorem Member.enumerated_ofDeclaration :
    Enumerated catalog schema e (ofDeclaration catalog schema e).value := by
  unfold ofDeclaration
  split
  · exact Or.inl rfl
  · rw [Report.value_bind, Report.value_pure]
    cases hproperty : (SimpleType.property? catalog schema (e.attributeD "name") e).value with
    | none => exact Or.inl rfl
    | some property => exact SimpleType.enumerated_property? hproperty

/-- An array of listed values has the same values. -/
theorem Member.enumerated_ofElement :
    Enumerated catalog schema e (ofElement catalog schema e).value := by
  have hsingle : Enumerated catalog schema e (ofSingleElement catalog schema e).value := by
    unfold ofSingleElement
    split
    · exact Or.inl rfl
    · exact enumerated_ofDeclaration
  rw [ofElement, Report.value_bind, Report.value_pure]
  obtain hnone | ⟨declaring, restriction, hreaches, hmade⟩ := hsingle
  · exact Or.inl hnone
  · refine Or.inr ⟨declaring, restriction, hreaches, hmade.enumeration, ?_⟩
    rw [← hmade.item]
    split <;> rfl

theorem Member.enumerated_ofAttribute
    (h : (ofAttribute catalog schema e).value = some property) :
    Enumerated catalog schema e property := by
  unfold ofAttribute at h
  split at h
  · unfold ofAttributeReference at h
    rw [Report.value_bind] at h
    split at h
    · rename_i declaring declaration hfound
      rw [Report.value_map, Option.some.injEq] at h
      have hdeclared : Enumerated catalog declaring declaration property :=
        h ▸ enumerated_ofDeclaration
      refine hdeclared.imp_right fun ⟨declaring', restriction, hreaches, hmade⟩ =>
        ⟨declaring', restriction, ?_, hmade⟩
      cases hreaches with
      | own hinside => exact .named hfound hinside
      | named hfound' hinside => exact .named hfound' hinside
    · split at h
      · rw [Report.value_pure, Option.some.injEq] at h
        exact Or.inl (h ▸ rfl)
      · cases h
  · rw [Report.value_map, Option.some.injEq] at h
    exact h ▸ enumerated_ofDeclaration

theorem Member.enumerated_of_mem_elements (h : property ∈ (elements catalog schema e).value) :
    Enumerated catalog schema e property := by
  rw [elements, Report.value_each] at h
  obtain ⟨member, hmember, rfl⟩ := List.mem_map.1 h
  exact enumerated_ofElement.of_mem (Xml.Element.mem_all_of_mem_inside hmember)

theorem Member.enumerated_of_mem_attributes (h : property ∈ (attributes catalog schema e).value) :
    Enumerated catalog schema e property := by
  rw [attributes, Report.value_map, Report.value_each, List.reduceOption_mem_iff] at h
  obtain ⟨member, hmember, hproperty⟩ := List.mem_map.1 h
  exact (enumerated_ofAttribute hproperty).of_mem
    (Xml.Element.mem_all_of_mem_inside (List.mem_filter.1 hmember).1)

namespace Declaration

variable {config : Config}

/-- The value of a simple content has listed values from its restriction. -/
theorem enumerated_contentValue :
    Enumerated catalog schema e (contentValue catalog schema config.valueName e).value := by
  unfold contentValue
  split
  · refine Or.inr ⟨schema, e, .own (Xml.Element.self_mem_all e), ?_⟩
    constructor <;> rw [SimpleType.name_restricted]
  · exact Or.inl SimpleType.enumeration_ofBase

theorem enumerated_of_mem_simpleMembers {m : Origin × Property}
    (h : m ∈ simpleMembers config catalog schema e) : Enumerated catalog schema e m.2 := by
  unfold simpleMembers at h
  cases hderivation : contentDerivation? e with
  | none => simp [hderivation] at h
  | some derivation =>
    simp only [hderivation, List.mem_cons] at h
    refine Enumerated.of_mem ?_ (mem_all_of_contentDerivation? hderivation)
    rcases h with rfl | h
    · exact enumerated_contentValue
    · exact Member.enumerated_of_mem_attributes (Origin.mem_tag.1 h).2

theorem enumerated_of_mem_complexMembers {m : Origin × Property}
    (h : m ∈ complexMembers catalog schema e) : Enumerated catalog schema e m.2 := by
  rcases List.mem_append.1 h with h | h
  · exact Member.enumerated_of_mem_elements (Origin.mem_tag.1 h).2
  · exact Member.enumerated_of_mem_attributes (Origin.mem_tag.1 h).2

theorem enumerated_of_mem_plainMembersOf {m : Origin × Property}
    (h : m ∈ plainMembersOf config catalog schema e) : Enumerated catalog schema e m.2 := by
  rcases List.mem_append.1 h with h | h
  · split at h
    · exact SimpleType.enumerated_property? (Option.mem_toList.1 (Origin.mem_tag.1 h).2)
    · exact Member.enumerated_of_mem_elements (Origin.mem_tag.1 h).2
  · exact Member.enumerated_of_mem_attributes (Origin.mem_tag.1 h).2

theorem enumerated_of_mem_body
    (h : property ∈ (body config catalog schema e).value.properties) :
    Enumerated catalog schema e property := by
  rw [← map_snd_bodyMembers] at h
  obtain ⟨m, hm, rfl⟩ := List.mem_map.1 h
  unfold bodyMembers at hm
  split at hm
  · rename_i content hcontent
    exact (enumerated_of_mem_simpleMembers hm).of_mem (List.mem_of_find?_eq_some hcontent)
  · split at hm
    · rename_i content hcontent
      exact (enumerated_of_mem_complexMembers hm).of_mem (List.mem_of_find?_eq_some hcontent)
    · exact enumerated_of_mem_plainMembersOf hm

/-- **Every property that a declaration has** lists no values, or those of a restriction in reach. -/
theorem enumerated_of_mem_describe {name : String}
    (h : property ∈ (describe config catalog schema e name).value.properties) :
    Enumerated catalog schema e property := by
  unfold describe at h
  split at h
  · cases h
  · exact enumerated_of_mem_body h

/-- **Listed values are values of a scalar**, but for one kind of base. Among whatever documents,
where a property of a declaration lists values there are some, a restriction in the declaration or
in a global attribute lists them, and the type of the property without its arrays is a scalar
unless this restriction declares its base in place, as a list of a declaration. -/
theorem enumerated_properties (config : Config) (catalog : Catalog) (schema : Schema)
    (e : Xml.Element) (name : String) {property : Property} {values : List String}
    (hmem : property ∈ (describe config catalog schema e name).value.properties)
    (hvalues : property.enumeration = some values) :
    values ≠ [] ∧ ∃ declaring restriction, Reaches catalog schema e declaring restriction ∧
      MadeBy catalog declaring restriction property ∧
      values = SimpleType.enumeration restriction ∧
      ((∃ kind, property.type.item = .scalar kind) ↔
        ¬(restriction.attribute? "base" = none ∧
          SimpleType.ComesDown declaring.target true restriction)) := by
  rcases enumerated_of_mem_describe hmem with hnone | ⟨declaring, restriction, hreaches, hmade⟩
  · rw [hnone] at hvalues
    cases hvalues
  · have hlisted := hmade.enumeration
    rw [hvalues, SimpleType.enumeration_restricted] at hlisted
    split at hlisted
    · cases hlisted
    · rename_i hne
      rw [Option.some.injEq] at hlisted
      rw [hlisted, hmade.item]
      exact ⟨hne, declaring, restriction, hreaches, hmade, rfl, SimpleType.item_restricted_iff hne⟩

end Declaration

end

namespace Declaration

/-- A simple type `T` that lists the text `a` among the values of a base. -/
def listing (base : List (String × String)) (inPlace : List Xml.Element) : Xml.Element :=
  tagOn "simpleType" [("name", "T")] 1
    [tagOn "restriction" base 2 (inPlace ++ [tagOn "enumeration" [("value", "a")] 3 []])]

/-- Where the base is named the type is a scalar, also where no declaration is found. -/
theorem enumerated_properties_of_named_base :
    let property : Property :=
      { name := "_", type := .scalar .string, source := "N", enumeration := some ["a"] }
    property ∈ (describe {} ⟨[], []⟩ plainSchema (listing [("base", "N")] []) "T").value.properties ∧
      ["a"] ≠ [] ∧ ∃ declaring restriction,
        Reaches ⟨[], []⟩ plainSchema (listing [("base", "N")] []) declaring restriction ∧
          MadeBy ⟨[], []⟩ declaring restriction property ∧
          ["a"] = SimpleType.enumeration restriction ∧
          ((∃ kind, property.type.item = .scalar kind) ↔
            ¬(restriction.attribute? "base" = none ∧
              SimpleType.ComesDown declaring.target true restriction)) :=
  have hmem : { name := "_", type := .scalar .string, source := "N", enumeration := some ["a"] }
      ∈ (describe {} ⟨[], []⟩ plainSchema (listing [("base", "N")] []) "T").value.properties := by
    decide +kernel
  ⟨hmem, enumerated_properties {} ⟨[], []⟩ plainSchema (listing [("base", "N")] []) "T" hmem rfl⟩

/-- **Listed values of a list of a declaration keep the declaration.** -/
theorem listed_declaration_stays :
    (describe {} ⟨[], []⟩ plainSchema
      (listing [] [tagOn "simpleType" [] 2 [tagOn "list" [("itemType", "N")] 2 []]])
        "T").value.properties
      = [{ name := "_", type := .array (.reference ⟨"", "N"⟩), source := "N"
           enumeration := some ["a"] }] := by
  decide +kernel

end Declaration

end WsdlTypes
