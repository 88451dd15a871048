import WsdlTypes.Proofs.Declaration.Inline
import WsdlTypes.Proofs.Lockstep.Declaration
import WsdlTypes.Proofs.Xml.Prefixes
/-!
# Declarations under other prefixes

Whatever is read of a declaration goes through the namespaces that its prefixes are bound to. So
in a catalog whose documents have their prefixes renamed (`Catalog.renamed`) the same
declarations are found, names mean the same, and a declaration is described by the same
properties but for how the names of their types are written (`matches_body_prefixes`).
-/

namespace WsdlTypes

/-- Sessions over documents under other prefixes differ in how the names of types are written,
and in the words for what is wrong. -/
def Leeway.prefixes : Leeway where
  called := Eq
  written _ _ := True
  grouped := Eq
  known := Eq
  reported problem problem' := problem'.kind = problem.kind
  called_iff := @Leeway.eq_iff_of_eq
  grouped_or := @Leeway.or_eq_of_eq
  reported_refl _ := rfl
  reported_selfReference _ _ := rfl
  reported_undeclaredReference _ _ _ := rfl

/-! ## Catalogs -/

/-- The schema with its prefixes renamed. -/
def Schema.renamed (ρ : PrefixRenaming) (schema : Schema) : Schema :=
  { schema with element := schema.element.renamed ρ }

/-- The service description with its prefixes renamed. -/
def Definitions.renamed (ρ : PrefixRenaming) (definitions : Definitions) : Definitions :=
  { definitions with element := definitions.element.renamed ρ }

/-- The catalog with all prefixes renamed. -/
def Catalog.renamed (ρ : PrefixRenaming) (catalog : Catalog) : Catalog where
  schemas := catalog.schemas.map (Schema.renamed ρ)
  definitions := catalog.definitions.map (Definitions.renamed ρ)

variable (ρ : PrefixRenaming) (catalog : Catalog) (schema : Schema) (e : Xml.Element)

theorem Xml.Element.find?_name_renamed (l : List Xml.Element) (name : String) :
    (l.map (Element.renamed ρ)).find? (fun e => e.attribute? "name" = some name)
      = (l.find? fun e => e.attribute? "name" = some name).map (Element.renamed ρ) := by
  have hcomp : (fun e : Xml.Element => decide (e.attribute? "name" = some name))
      ∘ Element.renamed ρ = fun e => decide (e.attribute? "name" = some name) := by
    funext e
    simp only [Function.comp_apply, attribute?_renamed_of_not_mem ρ e "name" (by decide)]
  rw [List.find?_map, hcomp]

namespace Catalog

/-- **The same declaration is found.** -/
theorem declaration?_renamed (tag : String) (key : ExpandedName) :
    (catalog.renamed ρ).declaration? tag key
      = (catalog.declaration? tag key).map fun found =>
          (found.1.renamed ρ, found.2.renamed ρ) := by
  simp only [declaration?, renamed, List.findSome?_map, List.map_findSome?]
  congr 1
  funext schema
  simp only [Function.comp_apply, Schema.renamed, Schema.declaration?,
    Xml.Element.children_renamed, Xml.Element.find?_name_renamed]
  split
  · simp only [Option.map_map]
    rfl
  · rfl

/-- And the same message. -/
theorem message?_renamed (key : ExpandedName) :
    (catalog.renamed ρ).message? key
      = (catalog.message? key).map fun found => (found.1.renamed ρ, found.2.renamed ρ) := by
  simp only [message?, renamed, List.findSome?_map, List.map_findSome?]
  congr 1
  funext definitions
  simp only [Function.comp_apply, Definitions.renamed, Definitions.message?,
    Xml.Element.children_renamed, Xml.Element.find?_name_renamed]
  split
  · simp only [Option.map_map]
    rfl
  · rfl

theorem schemasOf_renamed (order : List Nat) :
    (catalog.renamed ρ).schemasOf order = (catalog.schemasOf order).map (Schema.renamed ρ) := by
  simp only [schemasOf, renamed, List.map_flatMap, List.filter_map]
  rfl

theorem definitionsOf_renamed (order : List Nat) :
    (catalog.renamed ρ).definitionsOf order
      = (catalog.definitionsOf order).map (Definitions.renamed ρ) := by
  simp only [definitionsOf, renamed, List.map_flatMap, List.filter_map]
  rfl

theorem declarationsOf_renamed (order : List Nat) :
    (catalog.renamed ρ).declarationsOf order
      = (catalog.declarationsOf order).map fun declared =>
          (declared.1.renamed ρ, declared.2.renamed ρ) := by
  simp only [declarationsOf, schemasOf_renamed, List.flatMap_map, List.map_flatMap,
    Schema.declarations, Schema.renamed, Xml.Element.children_renamed, ← List.map_append,
    List.map_map]
  rfl

end Catalog

/-! ## Names -/

namespace Schema

theorem expand?_renamed (qname : String) :
    (schema.renamed ρ).expand? (e.renamed ρ) (QName.renamed ρ qname)
      = (schema.expand? e qname).mapError fun cause => ⟨ρ.rename cause.nsPrefix⟩ := by
  simp only [expand?, renamed, Xml.Element.scope_renamed]
  exact QName.expand_renamed ρ e.scope schema.target qname

/-- **A name means the same**, and is reported where it was. -/
theorem matches_expand (qname : String) :
    Report.Matches .prefixes Eq (schema.expand e qname)
      ((schema.renamed ρ).expand (e.renamed ρ) (QName.renamed ρ qname)) := by
  unfold expand
  rw [expand?_renamed]
  cases schema.expand? e qname with
  | ok key => exact Report.matches_pure rfl
  | error cause =>
    refine (matches_report rfl (Xml.Element.line_renamed ρ e) rfl).bind fun _ _ _ => ?_
    exact Report.matches_pure (by rw [QName.split_renamed]; rfl)

theorem matches_typeName (qname : String) :
    Report.Matches .prefixes Eq (schema.typeName e qname)
      ((schema.renamed ρ).typeName (e.renamed ρ) (QName.renamed ρ qname)) :=
  (matches_expand ρ schema e qname).map fun _ _ heq => by rw [heq]

end Schema

theorem hasInlineType_renamed : hasInlineType (e.renamed ρ) = hasInlineType e := by
  simp only [hasInlineType, Xml.Element.child?_renamed, Option.isSome_map]

theorem namedBase?_renamed :
    namedBase? (e.renamed ρ)
      = (namedBase? e).map fun found => (found.1.renamed ρ, QName.renamed ρ found.2) := by
  simp only [namedBase?, Xml.Element.descendants_renamed, List.findSome?_map, List.map_findSome?]
  congr 1
  funext restriction
  simp only [Function.comp_apply,
    Xml.Element.attribute?_renamed_of_mem ρ restriction "base" (by decide),
    Option.map_map]
  rfl

namespace Catalog

/-- **An element has the same built-in type.** -/
theorem builtinElement?_renamed (key : ExpandedName) :
    (catalog.renamed ρ).builtinElement? key = catalog.builtinElement? key := by
  simp only [builtinElement?, declaration?_renamed, bind]
  cases catalog.declaration? "element" key with
  | none => rfl
  | some found =>
    obtain ⟨declaring, e⟩ := found
    simp only [Option.map_some, Option.bind_some, hasInlineType_renamed,
      Xml.Element.attribute?_renamed_of_mem ρ e "type" (by decide)]
    cases e.attribute? "type" with
    | none => rfl
    | some written =>
      simp only [Option.map_some, Option.bind_some, Schema.expand?_renamed]
      cases declaring.expand? e written <;> rfl

/-- **Simple types come down to the same scalar.** -/
theorem matches_scalarBase (visited : List ExpandedName) (key : ExpandedName) :
    Report.Matches .prefixes Eq (catalog.scalarBase visited key)
      ((catalog.renamed ρ).scalarBase visited key) := by
  induction visited, key using scalarBase.induct catalog with
  | case1 visited key huri =>
    rw [scalarBase_eq, if_pos huri, scalarBase_eq, if_pos huri]
    exact Report.matches_pure rfl
  | case2 visited key huri hmem =>
    rw [scalarBase_eq, if_neg huri, if_pos hmem, scalarBase_eq, if_neg huri, if_pos hmem]
    exact Report.matches_pure rfl
  | case3 visited key huri hnew hnone =>
    rw [scalarBase_eq, if_neg huri, if_neg hnew, scalarBase_eq, if_neg huri, if_neg hnew,
      declaration?_renamed, hnone]
    exact Report.matches_pure rfl
  | case4 visited key huri hnew schema simpleType hfound hbase =>
    rw [scalarBase_eq, if_neg huri, if_neg hnew, scalarBase_eq, if_neg huri, if_neg hnew,
      declaration?_renamed, hfound]
    simp only [Option.map_some, Option.elim_some, namedBase?_renamed, hbase, Option.map_none]
    exact Report.matches_pure rfl
  | case5 visited key huri hnew schema simpleType hfound restriction base hbase ih =>
    rw [scalarBase_eq, if_neg huri, if_neg hnew, scalarBase_eq, if_neg huri, if_neg hnew,
      declaration?_renamed, hfound]
    simp only [Option.map_some, Option.elim_some, namedBase?_renamed, hbase]
    refine (schema.matches_expand ρ restriction base).bind fun target target' heq => ?_
    exact heq ▸ ih target

end Catalog

/-! ## Simple types -/

namespace SimpleType

/-- A derivation is the one that it was. -/
theorem derivation?_renamed :
    derivation? (e.renamed ρ) = (derivation? e).map (Xml.Element.renamed ρ) := by
  have hpick : (fun child : Xml.Element => derivationTags.any (child.hasTag schemaUri ·))
      ∘ Xml.Element.renamed ρ = fun child => derivationTags.any (child.hasTag schemaUri ·) := by
    funext child
    simp only [Function.comp_apply, Xml.Element.hasTag_renamed]
  have hholder : (if (e.renamed ρ).hasTag schemaUri "simpleType" then e.renamed ρ
        else ((e.renamed ρ).child? schemaUri "simpleType").getD (e.renamed ρ))
      = (if e.hasTag schemaUri "simpleType" then e
          else (e.child? schemaUri "simpleType").getD e).renamed ρ := by
    rw [Xml.Element.hasTag_renamed, Xml.Element.child?_renamed, Option.getD_map]
    split <;> rfl
  simp only [derivation?, hholder, Xml.Element.elements_renamed, List.find?_map, hpick]

theorem facets_renamed : facets (e.renamed ρ) = facets e := by
  simp only [facets, Xml.Element.elements_renamed, List.filterMap_map]
  congr 1
  funext facet
  simp only [Function.comp_apply, Xml.Element.start_renamed, Xml.StartTag.renamed,
    Xml.Element.attribute?_renamed_of_not_mem ρ facet "value" (by decide),
    Xml.Element.name_renamed]

theorem enumeration_renamed : enumeration (e.renamed ρ) = enumeration e := by
  simp only [enumeration, facets_renamed]

theorem constraints_renamed (before : SortedMap String String) :
    constraints (e.renamed ρ) before = constraints e before := by
  simp only [constraints, facets_renamed]

variable {property property' : Property}

/-- Properties of one name that match keep doing so under the same type. -/
theorem matches_enumerationType (type : ResolvedType) :
    Report.Matches .prefixes Eq (enumerationType catalog schema e type)
      (enumerationType (catalog.renamed ρ) (schema.renamed ρ) (e.renamed ρ) type) := by
  cases type with
  | scalar | array => exact Report.matches_pure rfl
  | reference base =>
    refine (catalog.matches_scalarBase ρ [] base).bind fun kind kind' heq => ?_
    subst heq
    cases kind with
    | some kind => exact Report.matches_pure rfl
    | none =>
      exact (Schema.matches_report rfl (e.line_renamed ρ) rfl).bind fun _ _ _ =>
        Report.matches_pure rfl

theorem matches_withFacets (h : property.Matches .prefixes property') :
    Report.Matches .prefixes (Property.Matches .prefixes) (withFacets catalog schema e property)
      (withFacets (catalog.renamed ρ) (schema.renamed ρ) (e.renamed ρ) property') := by
  unfold withFacets
  rw [enumeration_renamed, constraints_renamed, h.restrictions, h.type]
  cases enumeration e with
  | nil => exact Report.matches_pure { h with type := rfl, restrictions := rfl }
  | cons first rest =>
    refine (matches_enumerationType ρ catalog schema e property.type).bind
      fun type type' heq => ?_
    exact Report.matches_pure { h with
      type := heq.symm
      restrictions := rfl
      enumeration := rfl }

variable {inner inner' : Report (Option Property)}
variable (hinner : Report.Matches .prefixes (Option.Rel (Property.Matches .prefixes)) inner inner')

include hinner in
theorem matches_ofBase (name : String) :
    Report.Matches .prefixes (Property.Matches .prefixes) (ofBase schema name e inner)
      (ofBase (schema.renamed ρ) name (e.renamed ρ) inner') := by
  unfold ofBase
  rw [e.attribute?_renamed_of_mem ρ "base" (by decide)]
  cases e.attribute? "base" with
  | some base =>
    refine (schema.matches_typeName ρ e base).bind fun meaning meaning' heq => ?_
    exact Report.matches_pure ⟨rfl, by rw [heq], trivial, rfl, rfl, rfl⟩
  | none =>
    refine hinner.bind fun base base' hbase => ?_
    cases hbase with
    | none => exact Report.matches_pure ⟨rfl, rfl, trivial, rfl, rfl, rfl⟩
    | some hbase => exact Report.matches_pure ⟨rfl, hbase.type, trivial, rfl, rfl, rfl⟩

include hinner in
theorem matches_restricted (name : String) :
    Report.Matches .prefixes (Property.Matches .prefixes)
      (restricted catalog schema name e inner)
      (restricted (catalog.renamed ρ) (schema.renamed ρ) name (e.renamed ρ) inner') :=
  (matches_ofBase ρ schema e hinner name).bind fun _ _ h =>
    matches_withFacets ρ catalog schema e h

include hinner in
theorem matches_listed (name : String) :
    Report.Matches .prefixes (Property.Matches .prefixes) (listed schema name e inner)
      (listed (schema.renamed ρ) name (e.renamed ρ) inner') := by
  unfold listed
  rw [e.attribute?_renamed_of_mem ρ "itemType" (by decide)]
  cases e.attribute? "itemType" with
  | some item =>
    refine (schema.matches_typeName ρ e item).bind fun meaning meaning' heq => ?_
    exact Report.matches_pure ⟨rfl, by rw [heq], trivial, rfl, rfl, rfl⟩
  | none =>
    refine hinner.bind fun item item' hitem => ?_
    cases hitem with
    | none => exact Report.matches_pure ⟨rfl, rfl, trivial, rfl, rfl, rfl⟩
    | some hitem =>
      refine Report.matches_pure ⟨rfl, ?_, trivial, rfl, rfl, rfl⟩
      simp only [Option.elim_some, hitem.type]

/-- **The values of a simple type make the same property.** -/
theorem matches_property? (name : String) :
    Report.Matches .prefixes (Option.Rel (Property.Matches .prefixes))
      (property? catalog schema name e)
      (property? (catalog.renamed ρ) (schema.renamed ρ) name (e.renamed ρ)) := by
  fun_induction SimpleType.property? catalog schema name e with
  | case1 e hnone =>
    have hnone' : derivation? (e.renamed ρ) = none := by rw [derivation?_renamed, hnone]; rfl
    rw [property?_eq_match, hnone']
    exact Report.matches_pure .none
  | case2 e derivation hderivation inner =>
    rename_i ih
    have hderivation' : derivation? (e.renamed ρ) = some (derivation.renamed ρ) := by
      rw [derivation?_renamed, hderivation]
      rfl
    simp only [property?_eq_match (e := e.renamed ρ), hderivation', Xml.Element.name_renamed]
    refine Report.Matches.map (R := Property.Matches .prefixes) ?_ fun _ _ h => .some h
    split
    · exact matches_restricted ρ catalog schema derivation ih name
    · split
      · exact matches_listed ρ schema derivation ih name
      · exact Report.matches_pure ⟨rfl, rfl, trivial, rfl, rfl, rfl⟩

end SimpleType

/-! ## Members -/

namespace Member

theorem matches_ofDeclaration :
    Report.Matches .prefixes (Property.Matches .prefixes) (ofDeclaration catalog schema e)
      (ofDeclaration (catalog.renamed ρ) (schema.renamed ρ) (e.renamed ρ)) := by
  unfold ofDeclaration
  rw [e.attributeD_renamed_of_not_mem ρ "name" (by decide),
    e.attribute?_renamed_of_mem ρ "type" (by decide)]
  cases e.attribute? "type" with
  | some type =>
    refine (schema.matches_typeName ρ e type).bind fun meaning meaning' heq => ?_
    exact Report.matches_pure ⟨rfl, by rw [heq], trivial, rfl, rfl, rfl⟩
  | none =>
    refine (SimpleType.matches_property? ρ catalog schema e _).bind
      fun property property' hproperty => Report.matches_pure ?_
    cases hproperty with
    | none => exact ⟨rfl, rfl, trivial, rfl, rfl, rfl⟩
    | some hproperty => exact hproperty

theorem matches_ofElementReference (reference : String) :
    Report.Matches .prefixes (Property.Matches .prefixes)
      (ofElementReference catalog schema e reference)
      (ofElementReference (catalog.renamed ρ) (schema.renamed ρ) (e.renamed ρ)
        (QName.renamed ρ reference)) := by
  refine (schema.matches_expand ρ e reference).bind fun key key' heq => Report.matches_pure ?_
  subst heq
  exact ⟨rfl, by rw [catalog.builtinElement?_renamed ρ], trivial, rfl, rfl, rfl⟩

theorem matches_ofElement :
    Report.Matches .prefixes (Property.Matches .prefixes) (ofElement catalog schema e)
      (ofElement (catalog.renamed ρ) (schema.renamed ρ) (e.renamed ρ)) := by
  have hsingle : Report.Matches .prefixes (Property.Matches .prefixes)
      (ofSingleElement catalog schema e)
      (ofSingleElement (catalog.renamed ρ) (schema.renamed ρ) (e.renamed ρ)) := by
    unfold ofSingleElement
    rw [e.attribute?_renamed_of_mem ρ "ref" (by decide)]
    cases e.attribute? "ref" with
    | some reference => exact matches_ofElementReference ρ catalog schema e reference
    | none => exact matches_ofDeclaration ρ catalog schema e
  unfold ofElement isNillable
  rw [e.attribute?_renamed_of_not_mem ρ "nillable" (by decide),
    e.attribute?_renamed_of_not_mem ρ "maxOccurs" (by decide)]
  refine hsingle.bind fun property property' h => Report.matches_pure ?_
  exact { h with
    type := by rw [h.type]
    nullable := rfl }

theorem matches_ofAttributeReference (reference : String) :
    Report.Matches .prefixes (Option.Rel (Property.Matches .prefixes))
      (ofAttributeReference catalog schema e reference)
      (ofAttributeReference (catalog.renamed ρ) (schema.renamed ρ) (e.renamed ρ)
        (QName.renamed ρ reference)) := by
  refine (schema.matches_expand ρ e reference).bind fun key key' heq => ?_
  subst heq
  rw [catalog.declaration?_renamed ρ]
  cases catalog.declaration? "attribute" key with
  | some found =>
    exact (matches_ofDeclaration ρ catalog found.1 found.2).map fun _ _ h => .some h
  | none =>
    simp only [Option.map_none]
    split
    · exact Report.matches_pure (.some ⟨rfl, rfl, trivial, rfl, rfl, rfl⟩)
    · exact (Schema.matches_report rfl (e.line_renamed ρ) rfl).bind fun _ _ _ =>
        Report.matches_pure .none

theorem matches_ofAttribute :
    Report.Matches .prefixes (Option.Rel (Property.Matches .prefixes))
      (ofAttribute catalog schema e)
      (ofAttribute (catalog.renamed ρ) (schema.renamed ρ) (e.renamed ρ)) := by
  unfold ofAttribute
  rw [e.attribute?_renamed_of_mem ρ "ref" (by decide)]
  cases e.attribute? "ref" with
  | some reference => exact matches_ofAttributeReference ρ catalog schema e reference
  | none => exact (matches_ofDeclaration ρ catalog schema e).map fun _ _ h => .some h

/-- **The elements of a holder make the same properties.** -/
theorem matches_elements :
    Report.Matches .prefixes (List.Forall₂ (Property.Matches .prefixes))
      (elements catalog schema e)
      (elements (catalog.renamed ρ) (schema.renamed ρ) (e.renamed ρ)) := by
  unfold elements
  rw [Xml.Element.inside_renamed]
  refine Report.matches_each ?_
  rw [List.forall₂_map_right_iff]
  exact List.forall₂_same.2 fun element _ => matches_ofElement ρ catalog schema element

/-- And so do its attributes. -/
theorem matches_attributes :
    Report.Matches .prefixes (List.Forall₂ (Property.Matches .prefixes))
      (attributes catalog schema e)
      (attributes (catalog.renamed ρ) (schema.renamed ρ) (e.renamed ρ)) := by
  have hused : (fun e : Xml.Element => e.attribute? "use" != some "prohibited")
      ∘ Xml.Element.renamed ρ = fun e => e.attribute? "use" != some "prohibited" := by
    funext e
    simp only [Function.comp_apply,
      e.attribute?_renamed_of_not_mem ρ "use" (by decide)]
  unfold attributes
  rw [Xml.Element.inside_renamed, List.filter_map, hused]
  refine (Report.matches_each ?_).map fun _ _ h => Leeway.rel_reduceOption h
  rw [List.forall₂_map_right_iff]
  exact List.forall₂_same.2 fun element _ => matches_ofAttribute ρ catalog schema element

end Member

/-! ## Declarations -/

namespace Declaration

variable (config : Config)

theorem documentation?_renamed : documentation? (e.renamed ρ) = documentation? e := by
  simp only [documentation?, Xml.Element.descendant?_renamed]
  cases e.descendant? schemaUri "documentation" with
  | none => rfl
  | some found => simp only [Option.map_some, Option.bind_some, Xml.Element.allText_renamed]

theorem contentDerivation?_renamed :
    contentDerivation? (e.renamed ρ) = (contentDerivation? e).map (Xml.Element.renamed ρ) := by
  have hpick : (fun e : Xml.Element =>
      e.hasTag schemaUri "extension" || e.hasTag schemaUri "restriction") ∘ Xml.Element.renamed ρ
        = fun e => e.hasTag schemaUri "extension" || e.hasTag schemaUri "restriction" := by
    funext e
    simp only [Function.comp_apply, Xml.Element.hasTag_renamed]
  simp only [contentDerivation?, Xml.Element.elements_renamed, List.find?_map, hpick]

/-- A declaration says the same of itself. -/
theorem alike_renamed : Alike .prefixes schema (schema.renamed ρ) e (e.renamed ρ) where
  target := rfl
  location := rfl
  line := e.line_renamed ρ
  isElement := e.hasTag_renamed ρ _ _
  name := e.attribute?_renamed_of_not_mem ρ _ (by decide)
  inline := hasInlineType_renamed ρ e
  nested := by simp only [isNested, Xml.Element.descendants_renamed, List.length_map]
  documentation := documentation?_renamed ρ e
  type := by
    rw [e.attribute?_renamed_of_mem ρ "type" (by decide)]
    cases e.attribute? "type" with
    | none => exact .none
    | some written => exact .some (schema.matches_typeName ρ e written)

theorem matches_simpleBody_prefixes :
    Report.Matches .prefixes (Body.Matches .prefixes) (simpleBody config catalog schema e)
      (simpleBody config (catalog.renamed ρ) (schema.renamed ρ) (e.renamed ρ)) := by
  unfold simpleBody
  rw [contentDerivation?_renamed]
  cases contentDerivation? e with
  | none => exact Report.matches_pure ⟨rfl, .nil⟩
  | some derivation =>
    have hvalue : Report.Matches .prefixes (Property.Matches .prefixes)
        (contentValue catalog schema config.valueName derivation)
        (contentValue (catalog.renamed ρ) (schema.renamed ρ) config.valueName
          (derivation.renamed ρ)) := by
      unfold contentValue
      rw [Xml.Element.hasTag_renamed]
      split
      · exact SimpleType.matches_restricted ρ catalog schema derivation
          (SimpleType.matches_property? ρ catalog schema derivation _) _
      · exact SimpleType.matches_ofBase ρ schema derivation (Report.matches_pure .none) _
    refine hvalue.bind fun value value' hvalue => ?_
    refine (Member.matches_attributes ρ catalog schema derivation).bind
      fun attributes attributes' hattributes => ?_
    exact Report.matches_pure ⟨rfl, .cons hvalue hattributes⟩

theorem matches_extended? :
    Report.Matches .prefixes Eq (extended? schema e)
      (extended? (schema.renamed ρ) (e.renamed ρ)) := by
  unfold extended?
  rw [Xml.Element.child?_renamed]
  cases e.child? schemaUri "extension" with
  | none => exact Report.matches_pure rfl
  | some extension =>
    simp only [Option.map_some, extension.attribute?_renamed_of_mem ρ "base" (by decide)]
    cases extension.attribute? "base" with
    | none => exact Report.matches_pure rfl
    | some base =>
      refine (schema.matches_typeName ρ extension base).bind fun meaning meaning' heq => ?_
      subst heq
      cases meaning <;> exact Report.matches_pure rfl

theorem matches_complexBody_prefixes :
    Report.Matches .prefixes (Body.Matches .prefixes) (complexBody catalog schema e)
      (complexBody (catalog.renamed ρ) (schema.renamed ρ) (e.renamed ρ)) := by
  unfold complexBody
  refine (matches_extended? ρ schema e).bind fun parent parent' hparent => ?_
  refine (Member.matches_elements ρ catalog schema e).bind
    fun elements elements' helements => ?_
  refine (Member.matches_attributes ρ catalog schema e).bind
    fun attributes attributes' hattributes => ?_
  exact Report.matches_pure ⟨hparent.symm, List.rel_append helements hattributes⟩

theorem matches_plainBody_prefixes :
    Report.Matches .prefixes (Body.Matches .prefixes) (plainBody config catalog schema e)
      (plainBody config (catalog.renamed ρ) (schema.renamed ρ) (e.renamed ρ)) := by
  have hmembers : Report.Matches .prefixes (List.Forall₂ (Property.Matches .prefixes))
      (plainMembers config catalog schema e)
      (plainMembers config (catalog.renamed ρ) (schema.renamed ρ) (e.renamed ρ)) := by
    refine (Member.matches_elements ρ catalog schema e).bind
      fun elements elements' helements => ?_
    cases helements with
    | nil =>
      refine (SimpleType.matches_property? ρ catalog schema e _).bind
        fun property property' hproperty => Report.matches_pure ?_
      cases hproperty with
      | none => exact .nil
      | some hproperty => exact .cons hproperty .nil
    | cons hfirst hrest => exact Report.matches_pure (.cons hfirst hrest)
  refine hmembers.bind fun members members' hmembers => ?_
  refine (Member.matches_attributes ρ catalog schema e).bind
    fun attributes attributes' hattributes => ?_
  exact Report.matches_pure ⟨rfl, List.rel_append hmembers hattributes⟩

/-- **The body of a declaration is the same** but for how the names of types are written. -/
theorem matches_body_prefixes :
    Report.Matches .prefixes (Body.Matches .prefixes) (body config catalog schema e)
      (body config (catalog.renamed ρ) (schema.renamed ρ) (e.renamed ρ)) := by
  unfold body
  rw [Xml.Element.descendant?_renamed, Xml.Element.descendant?_renamed]
  cases e.descendant? schemaUri "simpleContent" with
  | some content => exact matches_simpleBody_prefixes ρ catalog schema content config
  | none =>
    cases e.descendant? schemaUri "complexContent" with
    | some content => exact matches_complexBody_prefixes ρ catalog schema content
    | none => exact matches_plainBody_prefixes ρ catalog schema e config

/-- **Every declaration is described alike** in a catalog under other prefixes. -/
theorem forall₂_declarationsOf_prefixes (order : List Nat) :
    List.Forall₂ (Declaration.Matches .prefixes config config catalog (catalog.renamed ρ))
      (catalog.declarationsOf order) ((catalog.renamed ρ).declarationsOf order) := by
  rw [Catalog.declarationsOf_renamed, List.forall₂_map_right_iff]
  refine List.forall₂_same.2 fun declared _ => ?_
  exact matches_describeAny (alike_renamed ρ declared.1 declared.2) (fun _ => rfl)
    (matches_body_prefixes ρ catalog declared.1 declared.2 config)

end Declaration

end WsdlTypes
