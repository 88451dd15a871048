import Mathlib.Data.List.Forall2
import WsdlTypes.Proofs.Declaration.Abridged
/-!
# Catalogs of abridged documents

In a catalog whose schemas are abridged (`Schema.abridged`) the same declarations are found, but
abridged, and so the two catalogs answer alike (`Abridgement.agrees`). Documents that come to the
same once they are abridged therefore have the same declarations, one by one, described alike but
for the documentation and reported alike but for the lines
(`Abridgement.forall₂_declarationsOf`).
-/

namespace WsdlTypes

open Xml (Element)

/-- The schema with its element abridged. -/
def Schema.abridged (A : Abridgement) (schema : Schema) : Schema :=
  { schema with element := A.abridge schema.element }

theorem Schema.samePlace_abridged (A : Abridgement) (schema : Schema) :
    schema.SamePlace (schema.abridged A) := ⟨rfl, rfl⟩

/-- Two declarations, each in a catalog, that are described alike but for the documentation and
reported alike but for the lines. -/
structure Declaration.DescribedAlike (config : Config) (catalog catalog' : Catalog)
    (declared declared' : Schema × Element) : Prop where
  type : (describeAny config catalog' declared'.1 declared'.2).value.map (·.documented none)
    = (describeAny config catalog declared.1 declared.2).value.map (·.documented none)
  findings : (describeAny config catalog' declared'.1 declared'.2).findings.map Finding.unlined
    = (describeAny config catalog declared.1 declared.2).findings.map Finding.unlined

/-- Declarations that are described like one other are described alike. -/
theorem Declaration.DescribedAlike.trans_symm {config : Config}
    {catalog catalog' catalog'' : Catalog} {declared declared' declared'' : Schema × Element}
    (h : DescribedAlike config catalog' catalog'' declared' declared'')
    (h' : DescribedAlike config catalog catalog'' declared declared'') :
    DescribedAlike config catalog catalog' declared declared' :=
  ⟨h.type.symm.trans h'.type, h.findings.symm.trans h'.findings⟩

namespace Abridgement

variable (A : Abridgement) {schema : Schema} {catalog catalog' : Catalog} {tag : String}

/-! ## Look-up -/

theorem children_abridge (hschema : schema.element.hasTag schemaUri "schema" = true)
    (htag : tag ∈ ["element", "attribute", "complexType", "simpleType"]) :
    (schema.abridged A).element.children schemaUri tag
      = (schema.element.children schemaUri tag).map A.abridge := by
  refine A.filter_elements (A.covers_of_hasTag hschema (by decide)) (fun x hx => ?_)
    fun _ => A.hasTag_abridge
  rw [Element.isPartOf, hschema, Bool.true_and, Bool.or_eq_true, List.any_eq_true,
    List.any_eq_true]
  simp only [List.mem_cons, List.not_mem_nil, or_false] at htag
  obtain rfl | rfl | rfl | rfl := htag
  · exact Or.inr ⟨_, by decide, hx⟩
  · exact Or.inr ⟨_, by decide, hx⟩
  · exact Or.inl ⟨_, by decide, hx⟩
  · exact Or.inl ⟨_, by decide, hx⟩

theorem covers_of_mem_children {e holder : Element} (h : e ∈ holder.children schemaUri tag)
    (htag : tag ≠ "annotation") : A.covers e :=
  A.covers_of_hasTag (Element.hasTag_of_mem_children h) htag

section

variable (hschemas : catalog'.schemas = catalog.schemas.map (Schema.abridged A))
variable (hall : ∀ schema ∈ catalog.schemas, schema.element.hasTag schemaUri "schema" = true)

include hschemas hall

/-- **The same declaration is found**, abridged. -/
theorem declaration?_abridged (tag : String)
    (htag : tag ∈ ["element", "attribute", "complexType", "simpleType"]) (key : ExpandedName) :
    catalog'.declaration? tag key
      = (catalog.declaration? tag key).map fun found =>
          (found.1.abridged A, A.abridge found.2) := by
  simp only [Catalog.declaration?, hschemas, List.findSome?_map, List.map_findSome?]
  rw [← List.head?_filterMap, ← List.head?_filterMap]
  refine congrArg List.head? (List.filterMap_congr fun schema hschema => ?_)
  have hname : ∀ l : List Element,
      (l.map A.abridge).find? (fun e => e.attribute? "name" = some key.name)
        = (l.find? fun e => e.attribute? "name" = some key.name).map A.abridge := by
    intro l
    simp only [List.find?_map, Function.comp_def, attribute?_abridge]
  simp only [Function.comp_apply, Schema.declaration?,
    A.children_abridge (hall schema hschema) htag, hname]
  change (if schema.target = key.uri then _ else none) = _
  split
  · simp only [Option.map_map]
    rfl
  · rfl

theorem builtinElement?_abridged (key : ExpandedName) :
    catalog'.builtinElement? key = catalog.builtinElement? key := by
  simp only [Catalog.builtinElement?, bind,
    A.declaration?_abridged hschemas hall "element" (by decide)]
  cases hfound : catalog.declaration? "element" key with
  | none => rfl
  | some found =>
    obtain ⟨declaring, e⟩ := found
    have hcovers := A.covers_of_mem_children (Catalog.declaration?_eq_some hfound).2.2.1
      (by decide)
    simp only [Option.map_some, Option.bind_some, A.hasInlineType_abridge hcovers,
      attribute?_abridge, A.expand?_abridge (declaring.samePlace_abridged A)]

theorem unlined_scalarBase (visited : List ExpandedName) (key : ExpandedName) :
    (catalog'.scalarBase visited key).unlined = (catalog.scalarBase visited key).unlined := by
  have hfound := A.declaration?_abridged hschemas hall "simpleType" (by decide)
  induction visited, key using Catalog.scalarBase.induct catalog with
  | case1 visited key huri =>
    rw [Catalog.scalarBase_eq, if_pos huri, Catalog.scalarBase_eq, if_pos huri]
  | case2 visited key huri hmem =>
    rw [Catalog.scalarBase_eq, if_neg huri, if_pos hmem, Catalog.scalarBase_eq, if_neg huri,
      if_pos hmem]
  | case3 visited key huri hnew hnone =>
    rw [Catalog.scalarBase_eq, if_neg huri, if_neg hnew, Catalog.scalarBase_eq, if_neg huri,
      if_neg hnew, hfound, hnone]
    rfl
  | case4 visited key huri hnew schema simpleType hsome hbase =>
    rw [Catalog.scalarBase_eq, if_neg huri, if_neg hnew, Catalog.scalarBase_eq, if_neg huri,
      if_neg hnew, hfound, hsome]
    simp only [Option.map_some, Option.elim_some, A.namedBase?_abridge, hbase, Option.map_none,
      Option.elim_none]
  | case5 visited key huri hnew schema simpleType hsome restriction base hbase ih =>
    rw [Catalog.scalarBase_eq, if_neg huri, if_neg hnew, Catalog.scalarBase_eq, if_neg huri,
      if_neg hnew, hfound, hsome]
    simp only [Option.map_some, Option.elim_some, A.namedBase?_abridge, hbase,
      Report.unlined_bind, A.unlined_expand (schema.samePlace_abridged A), ih]

/-- **A catalog answers alike when it is abridged.** -/
theorem agrees : catalog.Agrees catalog' where
  builtinElement? := A.builtinElement?_abridged hschemas hall
  scalarBase := A.unlined_scalarBase hschemas hall
  attributes key := by
    rw [A.declaration?_abridged hschemas hall "attribute" (by decide), Option.map_map]
    cases hfound : catalog.declaration? "attribute" key with
    | none => rfl
    | some found =>
      have hcovers := A.covers_of_mem_children (Catalog.declaration?_eq_some hfound).2.2.1
        (by decide)
      exact congrArg some (A.unlined_ofDeclaration (found.1.samePlace_abridged A)
        (A.unlined_scalarBase hschemas hall) hcovers)

/-! ## Declarations -/

omit hschemas in
theorem declarations_abridged (hschema : schema ∈ catalog.schemas) :
    (schema.abridged A).declarations = schema.declarations.map A.abridge := by
  have hchildren : ∀ tag ∈ ["element", "attribute", "complexType", "simpleType"],
      (schema.abridged A).element.children schemaUri tag
        = (schema.element.children schemaUri tag).map A.abridge :=
    fun tag htag => A.children_abridge (hall schema hschema) htag
  simp only [Schema.declarations, hchildren "element" (by decide),
    hchildren "complexType" (by decide), hchildren "simpleType" (by decide), List.map_append]

theorem declarationsOf_abridged (order : List Nat) :
    catalog'.declarationsOf order
      = (catalog.declarationsOf order).map fun declared =>
          (declared.1.abridged A, A.abridge declared.2) := by
  have hschemasOf : catalog'.schemasOf order
      = (catalog.schemasOf order).map (Schema.abridged A) := by
    simp only [Catalog.schemasOf, hschemas, List.filter_map, List.map_flatMap]
    rfl
  simp only [Catalog.declarationsOf, hschemasOf, List.flatMap_map, List.map_flatMap, List.map_map]
  refine List.flatMap_congr fun schema hschema => ?_
  obtain ⟨id, -, hmem⟩ := List.mem_flatMap.1 hschema
  rw [A.declarations_abridged hall (List.mem_filter.1 hmem).1, List.map_map]
  rfl

/-- A declaration is described alike when it is abridged with all of its catalog. -/
theorem describedAlike_abridged (config : Config) {order : List Nat}
    {declared : Schema × Element} (h : declared ∈ catalog.declarationsOf order) :
    Declaration.DescribedAlike config catalog catalog' declared
      (declared.1.abridged A, A.abridge declared.2) := by
  obtain ⟨schema, hschema, hdeclared⟩ := List.mem_flatMap.1 h
  obtain ⟨e, he, rfl⟩ := List.mem_map.1 hdeclared
  have hcovers : A.covers e := by
    rcases List.mem_append.1 he with he | he
    · exact A.covers_of_mem_children he (by decide)
    · rcases List.mem_append.1 he with he | he
      · exact A.covers_of_mem_children he (by decide)
      · exact A.covers_of_mem_children he (by decide)
  have hsame := A.unlined_describeAny config (schema.samePlace_abridged A)
    (A.agrees hschemas hall) hcovers
  constructor
  · have hvalue := congrArg Report.value hsame
    simp only [Report.value_unlined, Report.value_map] at hvalue
    rw [hvalue, Option.map_map]
    rfl
  · have hfindings := congrArg Report.findings hsame
    rw [Report.findings_map] at hfindings
    exact hfindings

end

end Abridgement

/-! ## Documents -/

/-- Two documents that are the same once they are abridged. -/
structure Document.SameAbridged (A : Abridgement) (document document' : Document) : Prop where
  id : document'.id = document.id
  location : document'.location = document.location
  root : A.abridge document'.root = A.abridge document.root

namespace Abridgement

variable (A : Abridgement) {documents documents' : List Document}

theorem hasTag_of_mem_ofDocuments {inherited : Nat → Option String} {schema : Schema}
    (h : schema ∈ (Catalog.ofDocuments documents inherited).schemas) :
    schema.element.hasTag schemaUri "schema" = true := by
  obtain ⟨document, -, hschema⟩ := List.mem_flatMap.1 h
  obtain ⟨element, helement, rfl⟩ := List.mem_map.1 hschema
  exact (List.mem_filter.1 helement).2

theorem abridged_ofDocument {document document' : Document}
    (h : document.SameAbridged A document') (inherited : Option String) :
    (Schema.ofDocument document' inherited).map (Schema.abridged A)
      = (Schema.ofDocument document inherited).map (Schema.abridged A) := by
  have hroots : (document'.root.descendants schemaUri "schema").map A.abridge
      = (document.root.descendants schemaUri "schema").map A.abridge := by
    rw [← A.descendants_abridge _ (by decide), h.root, A.descendants_abridge _ (by decide)]
  -- The namespace of a schema is said on its start tag, which the abridged schema keeps.
  have hschema : ∀ document : Document,
      (Schema.ofDocument document inherited).map (Schema.abridged A)
        = ((document.root.descendants schemaUri "schema").map A.abridge).map fun element =>
            { document := document.id
              location := document.location.display
              element
              target := (element.attribute? "targetNamespace").getD (inherited.getD "") } := by
    intro document
    simp only [Schema.ofDocument, Schema.abridged, List.map_map, Function.comp_def,
      attribute?_abridge]
  rw [hschema, hschema, hroots, h.id, h.location]

theorem abridged_ofDocuments (h : List.Forall₂ (Document.SameAbridged A) documents documents')
    (inherited : Nat → Option String) :
    (Catalog.ofDocuments documents' inherited).schemas.map (Schema.abridged A)
      = (Catalog.ofDocuments documents inherited).schemas.map (Schema.abridged A) := by
  simp only [Catalog.ofDocuments, List.map_flatMap]
  induction h with
  | nil => rfl
  | cons hfirst _ ih =>
    rw [List.flatMap_cons, List.flatMap_cons, ih, hfirst.id, A.abridged_ofDocument hfirst]

/-- **Documents that are the same once they are abridged have declarations that are described
alike**, one by one. -/
theorem forall₂_declarationsOf (h : List.Forall₂ (Document.SameAbridged A) documents documents')
    (config : Config) (inherited : Nat → Option String) (order : List Nat) :
    List.Forall₂
      (Declaration.DescribedAlike config (Catalog.ofDocuments documents inherited)
        (Catalog.ofDocuments documents' inherited))
      ((Catalog.ofDocuments documents inherited).declarationsOf order)
      ((Catalog.ofDocuments documents' inherited).declarationsOf order) := by
  let abridged : Catalog :=
    ⟨(Catalog.ofDocuments documents inherited).schemas.map (Schema.abridged A), []⟩
  have hschemas : abridged.schemas
      = (Catalog.ofDocuments documents' inherited).schemas.map (Schema.abridged A) :=
    (A.abridged_ofDocuments h inherited).symm
  have hfirst : abridged.schemas
      = (Catalog.ofDocuments documents inherited).schemas.map (Schema.abridged A) := rfl
  have hsame := (A.declarationsOf_abridged hfirst
    (fun _ => hasTag_of_mem_ofDocuments) order).symm.trans
      (A.declarationsOf_abridged hschemas (fun _ => hasTag_of_mem_ofDocuments) order)
  rw [← List.forall₂_eq_eq_eq, List.forall₂_map_left_iff, List.forall₂_map_right_iff,
    List.forall₂_iff_zip] at hsame
  refine List.forall₂_iff_zip.2 ⟨hsame.1, fun {declared declared'} hboth => ?_⟩
  obtain ⟨hmem, hmem'⟩ := List.of_mem_zip hboth
  have halike := A.describedAlike_abridged hfirst
    (fun _ => hasTag_of_mem_ofDocuments) config hmem
  have halike' := A.describedAlike_abridged hschemas (fun _ => hasTag_of_mem_ofDocuments)
    config hmem'
  rw [← hsame.2 hboth] at halike'
  exact halike'.trans_symm halike

end Abridgement

end WsdlTypes
