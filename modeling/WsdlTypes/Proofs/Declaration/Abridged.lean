import WsdlTypes.Proofs.Declaration.Abridgement
import WsdlTypes.Proofs.Lines
import WsdlTypes.Proofs.Walk.Declarations
/-!
# Abridged declarations

An abridged declaration has the same body, in every catalog that answers alike
(`Catalog.Agrees`), because nothing is read that an abridgement may drop. So it has the same
descriptor but for the documentation, and is reported alike but for the lines
(`Abridgement.unlined_describeAny`).
-/

namespace WsdlTypes

/-- Two schemas that stand at one place and have one namespace. -/
structure Schema.SamePlace (schema schema' : Schema) : Prop where
  target : schema'.target = schema.target
  location : schema'.location = schema.location

theorem Schema.SamePlace.refl (schema : Schema) : SamePlace schema schema := ⟨rfl, rfl⟩

/-- Two catalogs in which whatever a declaration has looked up comes to the same. -/
structure Catalog.Agrees (catalog catalog' : Catalog) : Prop where
  builtinElement? (key : ExpandedName) :
    catalog'.builtinElement? key = catalog.builtinElement? key
  scalarBase (visited : List ExpandedName) (key : ExpandedName) :
    (catalog'.scalarBase visited key).unlined = (catalog.scalarBase visited key).unlined
  attributes (key : ExpandedName) :
    (catalog'.declaration? "attribute" key).map (fun found =>
        (Member.ofDeclaration catalog' found.1 found.2).unlined)
      = (catalog.declaration? "attribute" key).map fun found =>
          (Member.ofDeclaration catalog found.1 found.2).unlined

theorem Catalog.Agrees.refl (catalog : Catalog) : Agrees catalog catalog :=
  ⟨fun _ => rfl, fun _ _ => rfl, fun _ => rfl⟩

namespace Abridgement

open Xml (Element)

variable (A : Abridgement) {e : Element} {name : String}
variable {schema schema' : Schema} (hplace : schema.SamePlace schema')
variable {catalog catalog' : Catalog} (hcatalog : catalog.Agrees catalog')

/-! ## Names -/

section

include hplace

theorem unlined_report (problem : Problem) :
    (schema'.report (A.abridge e) problem).unlined = (schema.report e problem).unlined := by
  rw [Schema.report, hplace.location]
  rfl

theorem expand?_abridge (qname : String) :
    schema'.expand? (A.abridge e) qname = schema.expand? e qname := by
  rw [Schema.expand?, scope_abridge, hplace.target, Schema.expand?]

theorem unlined_expand (qname : String) :
    (schema'.expand (A.abridge e) qname).unlined = (schema.expand e qname).unlined := by
  simp only [Schema.expand, A.expand?_abridge hplace]
  split
  · rfl
  · simp only [Report.unlined_bind, A.unlined_report hplace, hplace.target]

theorem unlined_typeName (qname : String) :
    (schema'.typeName (A.abridge e) qname).unlined = (schema.typeName e qname).unlined := by
  simp only [Schema.typeName, Report.unlined_map, A.unlined_expand hplace]

end

/-! ## Simple types -/

section

variable (hscalar : ∀ visited key,
  (catalog'.scalarBase visited key).unlined = (catalog.scalarBase visited key).unlined)

include hplace hscalar

theorem unlined_enumerationType (type : ResolvedType) :
    (SimpleType.enumerationType catalog' schema' (A.abridge e) type).unlined
      = (SimpleType.enumerationType catalog schema e type).unlined := by
  cases type with
  | reference base =>
    simp only [SimpleType.enumerationType, Report.unlined_bind, hscalar]
    congr 1
    funext kind
    cases kind with
    | none => simp only [Report.unlined_bind, A.unlined_report hplace]
    | some kind => rfl
  | scalar kind => rfl
  | array type => rfl

theorem unlined_withFacets (h : A.covers e) (hname : e.name = "restriction")
    (property : Property) :
    (SimpleType.withFacets catalog' schema' (A.abridge e) property).unlined
      = (SimpleType.withFacets catalog schema e property).unlined := by
  simp only [SimpleType.withFacets, SimpleType.constraints, SimpleType.enumeration,
    A.facets h hname]
  split
  · rfl
  · simp only [Report.unlined_bind, A.unlined_enumerationType hplace hscalar]

omit hscalar in
theorem unlined_ofBase {inner inner' : Report (Option Property)}
    (hinner : inner'.unlined = inner.unlined) :
    (SimpleType.ofBase schema' name (A.abridge e) inner').unlined
      = (SimpleType.ofBase schema name e inner).unlined := by
  simp only [SimpleType.ofBase, attribute?_abridge]
  split
  · simp only [Report.unlined_bind, A.unlined_typeName hplace]
  · simp only [Report.unlined_bind, hinner]

theorem unlined_restricted {inner inner' : Report (Option Property)}
    (hinner : inner'.unlined = inner.unlined) (h : A.covers e) (hname : e.name = "restriction") :
    (SimpleType.restricted catalog' schema' name (A.abridge e) inner').unlined
      = (SimpleType.restricted catalog schema name e inner).unlined := by
  simp only [SimpleType.restricted, Report.unlined_bind, A.unlined_ofBase hplace hinner,
    A.unlined_withFacets hplace hscalar h hname]

omit hscalar in
theorem unlined_listed {inner inner' : Report (Option Property)}
    (hinner : inner'.unlined = inner.unlined) :
    (SimpleType.listed schema' name (A.abridge e) inner').unlined
      = (SimpleType.listed schema name e inner).unlined := by
  simp only [SimpleType.listed, attribute?_abridge]
  split
  · simp only [Report.unlined_bind, A.unlined_typeName hplace]
  · simp only [Report.unlined_bind, hinner]

/-- The property of a simple type is the same, to any depth of derivations. -/
theorem unlined_property? (h : A.covers e) :
    (SimpleType.property? catalog' schema' name (A.abridge e)).unlined
      = (SimpleType.property? catalog schema name e).unlined := by
  fun_induction SimpleType.property? catalog schema name e with
  | case1 e hnone =>
    rw [SimpleType.property?_eq_match, A.derivation?_abridge h, hnone]
    rfl
  | case2 e derivation hderivation inner ih =>
    have hcovers := A.covers_of_derivation? hderivation
    rw [SimpleType.property?_eq_match, A.derivation?_abridge h, hderivation]
    simp only [Option.map_some, Report.unlined_map, name_abridge]
    congr 1
    split
    · rename_i hname
      exact A.unlined_restricted hplace hscalar (ih hcovers) hcovers hname
    · split
      · exact A.unlined_listed hplace (ih hcovers)
      · simp only [SimpleType.united, attributeD_abridge]

theorem unlined_ofDeclaration (h : A.covers e) :
    (Member.ofDeclaration catalog' schema' (A.abridge e)).unlined
      = (Member.ofDeclaration catalog schema e).unlined := by
  simp only [Member.ofDeclaration, attributeD_abridge, attribute?_abridge]
  split
  · simp only [Report.unlined_bind, A.unlined_typeName hplace]
  · simp only [Report.unlined_bind, A.unlined_property? hplace hscalar h]

end

/-! ## Members -/

section

include hplace hcatalog

theorem unlined_ofElement (h : A.covers e) :
    (Member.ofElement catalog' schema' (A.abridge e)).unlined
      = (Member.ofElement catalog schema e).unlined := by
  have hsingle : (Member.ofSingleElement catalog' schema' (A.abridge e)).unlined
      = (Member.ofSingleElement catalog schema e).unlined := by
    simp only [Member.ofSingleElement, attribute?_abridge]
    split
    · simp only [Member.ofElementReference, Report.unlined_bind, A.unlined_expand hplace,
        hcatalog.builtinElement?]
    · exact A.unlined_ofDeclaration hplace hcatalog.scalarBase h
  simp only [Member.ofElement, Member.isNillable, attribute?_abridge, Report.unlined_bind, hsingle]

theorem unlined_ofAttributeReference (reference : String) :
    (Member.ofAttributeReference catalog' schema' (A.abridge e) reference).unlined
      = (Member.ofAttributeReference catalog schema e reference).unlined := by
  simp only [Member.ofAttributeReference, Report.unlined_bind, A.unlined_expand hplace]
  congr 1
  funext key
  have hfound := hcatalog.attributes key
  cases hdeclared : catalog.declaration? "attribute" key with
  | none =>
    rw [hdeclared, Option.map_none, Option.map_eq_none_iff] at hfound
    rw [hfound]
    dsimp only
    split
    · rfl
    · simp only [Report.unlined_bind, A.unlined_report hplace]
  | some found =>
    rw [hdeclared, Option.map_some, Option.map_eq_some_iff] at hfound
    obtain ⟨found', hdeclared', hsame⟩ := hfound
    rw [hdeclared']
    simp only [Report.unlined_map, hsame]

theorem unlined_ofAttribute (h : A.covers e) :
    (Member.ofAttribute catalog' schema' (A.abridge e)).unlined
      = (Member.ofAttribute catalog schema e).unlined := by
  simp only [Member.ofAttribute, attribute?_abridge]
  split
  · exact A.unlined_ofAttributeReference hplace hcatalog _
  · simp only [Report.unlined_map, A.unlined_ofDeclaration hplace hcatalog.scalarBase h]

theorem unlined_elements :
    (Member.elements catalog' schema' (A.abridge e)).unlined
      = (Member.elements catalog schema e).unlined := by
  simp only [Member.elements, A.inside_abridge "element" (by decide), Report.each_map,
    Report.unlined_each]
  refine Report.each_congr fun x hx => A.unlined_ofElement hplace hcatalog ?_
  exact A.covers_of_hasTag (List.mem_filter.1 hx).2 (by decide)

theorem unlined_attributes :
    (Member.attributes catalog' schema' (A.abridge e)).unlined
      = (Member.attributes catalog schema e).unlined := by
  simp only [Member.attributes, A.attributes_abridge, Report.each_map, Report.unlined_map,
    Report.unlined_each]
  congr 1
  refine Report.each_congr fun x hx => A.unlined_ofAttribute hplace hcatalog ?_
  exact A.covers_of_hasTag (List.mem_filter.1 (List.mem_filter.1 hx).1).2 (by decide)

/-! ## Bodies -/

theorem unlined_contentValue (h : A.covers e) :
    (Declaration.contentValue catalog' schema' name (A.abridge e)).unlined
      = (Declaration.contentValue catalog schema name e).unlined := by
  simp only [Declaration.contentValue, hasTag_abridge]
  split
  · rename_i hrestriction
    simp only [Element.hasTag, Bool.and_eq_true, beq_iff_eq] at hrestriction
    exact A.unlined_restricted hplace hcatalog.scalarBase
      (A.unlined_property? hplace hcatalog.scalarBase h) h hrestriction.2
  · exact A.unlined_ofBase hplace rfl

theorem unlined_simpleBody (config : Config) (h : A.covers e) :
    (Declaration.simpleBody config catalog' schema' (A.abridge e)).unlined
      = (Declaration.simpleBody config catalog schema e).unlined := by
  simp only [Declaration.simpleBody, A.contentDerivation?_abridge h]
  cases hderivation : Declaration.contentDerivation? e with
  | none => rfl
  | some derivation =>
    simp only [Option.map_some, Report.unlined_bind, A.unlined_attributes hplace hcatalog,
      A.unlined_contentValue hplace hcatalog (A.covers_of_contentDerivation? hderivation)]

omit hcatalog in
theorem unlined_extended? (h : A.covers e) :
    (Declaration.extended? schema' (A.abridge e)).unlined
      = (Declaration.extended? schema e).unlined := by
  simp only [Declaration.extended?, A.child?_abridge h "extension" (by decide)]
  cases e.child? schemaUri "extension" with
  | none => rfl
  | some extension =>
    simp only [Option.map_some, attribute?_abridge]
    split
    · rfl
    · simp only [Report.unlined_bind, A.unlined_typeName hplace]

theorem unlined_complexBody (h : A.covers e) :
    (Declaration.complexBody catalog' schema' (A.abridge e)).unlined
      = (Declaration.complexBody catalog schema e).unlined := by
  simp only [Declaration.complexBody, Report.unlined_bind, A.unlined_extended? hplace h,
    A.unlined_elements hplace hcatalog, A.unlined_attributes hplace hcatalog]

theorem unlined_plainBody (config : Config) (h : A.covers e) :
    (Declaration.plainBody config catalog' schema' (A.abridge e)).unlined
      = (Declaration.plainBody config catalog schema e).unlined := by
  have hmembers : (Declaration.plainMembers config catalog' schema' (A.abridge e)).unlined
      = (Declaration.plainMembers config catalog schema e).unlined := by
    simp only [Declaration.plainMembers, Report.unlined_bind, A.unlined_elements hplace hcatalog]
    congr 1
    funext members
    split
    · simp only [Report.unlined_bind, A.unlined_property? hplace hcatalog.scalarBase h]
    · rfl
  simp only [Declaration.plainBody, Report.unlined_bind, hmembers,
    A.unlined_attributes hplace hcatalog]

/-- **The body of a declaration is the same**, be its content simple, complex or plain. -/
theorem unlined_body (config : Config) (h : A.covers e) :
    (Declaration.body config catalog' schema' (A.abridge e)).unlined
      = (Declaration.body config catalog schema e).unlined := by
  simp only [Declaration.body, A.descendant?_abridge "simpleContent" (by decide),
    A.descendant?_abridge "complexContent" (by decide)]
  cases hsimple : e.descendant? schemaUri "simpleContent" with
  | some content =>
    have htag := List.find?_some hsimple
    exact A.unlined_simpleBody hplace hcatalog config (A.covers_of_hasTag htag (by decide))
  | none =>
    cases hcomplex : e.descendant? schemaUri "complexContent" with
    | some content =>
      have htag := List.find?_some hcomplex
      exact A.unlined_complexBody hplace hcatalog (A.covers_of_hasTag htag (by decide))
    | none => exact A.unlined_plainBody hplace hcatalog config h

end

end Abridgement

/-! ## Descriptors -/

/-- The descriptor with another documentation. -/
def TypeDescriptor.documented (type : TypeDescriptor) (documentation : Option String) :
    TypeDescriptor :=
  { type with documentation }

namespace Abridgement

open Xml (Element)

variable (A : Abridgement) {e : Element} {name : String} (config : Config)
variable {schema schema' : Schema} (hplace : schema.SamePlace schema')
variable {catalog catalog' : Catalog} (hcatalog : catalog.Agrees catalog')

include hplace

theorem outline_abridge :
    Declaration.outline config schema' (A.abridge e) name
      = (Declaration.outline config schema e name).documented
          (Declaration.documentation? (A.abridge e)) := by
  simp only [Declaration.outline, hplace.target, hplace.location]
  rfl

theorem unlined_reportSelfReferences (type : TypeDescriptor) (documentation : Option String) :
    (Declaration.reportSelfReferences schema' (A.abridge e)
        (type.documented documentation)).unlined
      = (Declaration.reportSelfReferences schema e type).unlined := by
  simp only [Declaration.reportSelfReferences, TypeDescriptor.documented, Report.unlined_bind,
    Report.unlined_each, A.unlined_report hplace]
  rfl

include hcatalog

theorem unlined_describe (h : A.covers e) :
    (Declaration.describe config catalog' schema' (A.abridge e) name).unlined
      = (·.documented (Declaration.documentation? (A.abridge e)))
          <$> (Declaration.describe config catalog schema e name).unlined := by
  simp only [Declaration.describe, A.isNested_abridge, A.outline_abridge config hplace]
  split
  · simp only [Report.unlined_bind, A.unlined_report hplace, map_bind, map_pure,
      Report.unlined_pure]
  · simp only [Report.unlined_bind, A.unlined_body hplace hcatalog config h, map_bind, map_pure,
      Report.unlined_pure]
    congr 1
    funext body
    let type := { Declaration.outline config schema e name with
      parent := body.parent
      properties := body.properties }
    exact congrArg (· >>= fun _ => pure (type.documented _))
      (A.unlined_reportSelfReferences hplace type _)

theorem unlined_describeElement (h : A.covers e) :
    (Declaration.describeElement config catalog' schema' (A.abridge e)).unlined
      = Option.map (·.documented (Declaration.documentation? (A.abridge e)))
          <$> (Declaration.describeElement config catalog schema e).unlined := by
  simp only [Declaration.describeElement, A.hasInlineType_abridge h, attribute?_abridge]
  split
  · rfl
  · simp only [Report.unlined_map, A.unlined_describe config hplace hcatalog h, Functor.map_map,
      Option.map_some]
  · split
    · simp only [Report.unlined_map, A.unlined_describe config hplace hcatalog h,
        Functor.map_map, Option.map_some]
    · simp only [Report.unlined_bind, A.unlined_typeName hplace, map_bind]
      congr 1
      funext meaning
      cases meaning with
      | builtin kind => rfl
      | declared target =>
        simp only [hplace.target, Declaration.extending, A.outline_abridge config hplace]
        split <;> rfl

theorem unlined_describeType (h : A.covers e) :
    (Declaration.describeType config catalog' schema' (A.abridge e)).unlined
      = Option.map (·.documented (Declaration.documentation? (A.abridge e)))
          <$> (Declaration.describeType config catalog schema e).unlined := by
  simp only [Declaration.describeType, attribute?_abridge]
  split
  · rfl
  · simp only [Report.unlined_map, A.unlined_describe config hplace hcatalog h, Functor.map_map,
      Option.map_some]

/-- **An abridged declaration is described alike** but for the documentation, and reported alike
but for the lines. -/
theorem unlined_describeAny (h : A.covers e) :
    (Declaration.describeAny config catalog' schema' (A.abridge e)).unlined
      = Option.map (·.documented (Declaration.documentation? (A.abridge e)))
          <$> (Declaration.describeAny config catalog schema e).unlined := by
  simp only [Declaration.describeAny, hasTag_abridge]
  split
  · exact A.unlined_describeElement config hplace hcatalog h
  · exact A.unlined_describeType config hplace hcatalog h

end Abridgement

end WsdlTypes
