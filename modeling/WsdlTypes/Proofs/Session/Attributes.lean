import WsdlTypes.Proofs.Declaration.Attributes
import WsdlTypes.Proofs.Session.ElementReferences
/-!
# References to global attributes

A reference to an attribute is looked up among the documents of all calls, the earlier ones
included (`Session.mem_keys_catalog_iff`). So a declaration with simple content has a value and,
behind it, a property for each attribute that is declared in place, or in any document that came
in so far, or belongs to the prefix `xml` (`Session.attributes_behind_value`).
-/

namespace WsdlTypes.Session

/-- A global attribute is declared in a document that came in by one of some calls. -/
def AttributeDeclared (config : Config) (l : List Call) (key : ExpandedName) : Prop :=
  ∃ front, front <+: l ∧
    ∃ document ∈ ((Session.new config).calls front).library.documents,
      ∃ declaring ∈ ((Session.new config).calls front).schemasOf document,
        declaring.target = key.uri ∧
          ∃ e ∈ declaring.element.children schemaUri "attribute",
            e.attribute? "name" = some key.name

/-- **The attributes that are looked up** are those of all documents that came in. -/
theorem mem_keys_catalog_iff {config : Config} {l : List Call} {key : ExpandedName} :
    key ∈ ((Session.new config).calls l).catalog.keys "attribute" ↔
      AttributeDeclared config l key := by
  rw [Catalog.keys, List.mem_flatMap]
  constructor
  · rintro ⟨declaring, hschema, hkey⟩
    obtain ⟨document, hdocument, hmem⟩ := mem_schemas_catalog_iff.1 hschema
    obtain ⟨e, he, hname⟩ := List.mem_filterMap.1 hkey
    obtain ⟨name, hattribute, rfl⟩ := Option.map_eq_some_iff.1 hname
    exact ⟨l, List.prefix_refl l, document, hdocument, declaring, hmem, rfl, e, he, hattribute⟩
  · rintro ⟨front, ⟨back, rfl⟩, document, hdocument, declaring, hmem, htarget, e, he, hname⟩
    -- The later calls leave the document and its schemas as they were.
    have hkeeps : Keeps ((Session.new config).calls front)
        ((Session.new config).calls (front ++ back)) := by
      rw [calls_append]
      exact ((((tidy_new config).calls front).1).calls back).2
    refine ⟨declaring, mem_schemas_catalog_iff.2 ⟨document, hkeeps.documents hdocument, ?_⟩,
      List.mem_filterMap.2 ⟨e, he, ?_⟩⟩
    · rw [hkeeps.schemasOf_eq hdocument]
      exact hmem
    · rw [hname, Option.map_some, htarget]

/-- **What a declaration with simple content has.** Let a declaration hold one complex type at most,
and its simple content an extension or a restriction. Described among the documents of any calls,
whatever the files were at each of them, it has no parent. Its first property is the value, called
as values are configured to be; behind it comes one property for each attribute at any depth of the
derivation that is not prohibited and is declared in place, or refers to a global attribute of a
document that came in by any of the calls, or to one of the prefix `xml`. They are called like the
attribute or what it refers to. Every other attribute that is not prohibited makes no property and
is reported once as one that cannot be found. All this is in document order. -/
theorem attributes_behind_value (config : Config) (l : List Call) (schema : Schema)
    (e content derivation : Xml.Element) (name : String)
    (hone : (e.descendants schemaUri "complexType").length ≤ 1)
    (hcontent : e.descendant? schemaUri "simpleContent" = some content)
    (hderivation : Declaration.contentDerivation? content = some derivation) :
    let report := Declaration.describe config ((Session.new config).calls l).catalog schema e name
    report.value.parent = none ∧
      ∃ value properties, report.value.properties = value :: properties ∧
        value.name = config.valueName ∧
        Member.Accounted (AttributeDeclared config l) schema
          (derivation.inside schemaUri "attribute") properties report.lost := by
  intro report
  obtain ⟨hparent, value, hname, hproperties, hlost⟩ :=
    Declaration.simple_describe config ((Session.new config).calls l).catalog schema hone hcontent
      hderivation name
  refine ⟨hparent, value, _, hproperties, hname, ?_⟩
  rw [hlost]
  exact (Member.accounted_attributes _ schema derivation).congr fun _ => mem_keys_catalog_iff

/-- A global attribute, and in another document a type with simple content and attributes of every
kind. -/
def attributesElsewhere : File.Tree :=
  .ofTexts
    [("a", Schema.text "" "<s:attribute name='unit'/>"),
      ("b", Schema.text "" <|
        "<s:complexType name='T'><s:simpleContent><s:extension base='s:int'>"
          ++ "<s:attribute ref='unit'/><s:attribute ref='lost'/><s:attribute ref='xml:lang'/>"
          ++ "<s:attribute name='x' use='prohibited'/>"
          ++ "</s:extension></s:simpleContent></s:complexType>")]

theorem attributes_behind_value_attributesElsewhere :
    let calls : List Call := [⟨attributesElsewhere, "a"⟩, ⟨attributesElsewhere, "b"⟩]
    let catalog := ((Session.new {}).calls calls).catalog
    ∃ schema ∈ catalog.schemas, ∃ e ∈ schema.element.children schemaUri "complexType",
      ∃ content derivation, (e.descendants schemaUri "complexType").length ≤ 1 ∧
        e.descendant? schemaUri "simpleContent" = some content ∧
        Declaration.contentDerivation? content = some derivation ∧
        let report := Declaration.describe {} catalog schema e "T"
        report.value.properties.map Property.name = ["_", "unit", "lang"] ∧
          report.lost = [⟨.unresolvedAttribute "lost", "b", 1⟩] ∧
          report.value.parent = none ∧
          ∃ value properties, report.value.properties = value :: properties ∧ value.name = "_" ∧
            Member.Accounted (AttributeDeclared {} calls) schema
              (derivation.inside schemaUri "attribute") properties report.lost := by
  intro calls catalog
  obtain ⟨schema, hschema, e, he, hone, hholds, hnames, hlost⟩ :
      ∃ schema ∈ catalog.schemas, ∃ e ∈ schema.element.children schemaUri "complexType",
        (e.descendants schemaUri "complexType").length ≤ 1 ∧
          ((e.descendant? schemaUri "simpleContent").bind
            Declaration.contentDerivation?).isSome = true ∧
          (Declaration.describe {} catalog schema e "T").value.properties.map Property.name
            = ["_", "unit", "lang"] ∧
          (Declaration.describe {} catalog schema e "T").lost
            = [⟨.unresolvedAttribute "lost", "b", 1⟩] := by
    decide +kernel
  obtain ⟨derivation, hfound⟩ := Option.isSome_iff_exists.1 hholds
  obtain ⟨content, hcontent, hderivation⟩ := Option.bind_eq_some_iff.1 hfound
  exact ⟨schema, hschema, e, he, content, derivation, hone, hcontent, hderivation, hnames, hlost,
    attributes_behind_value {} calls schema e content derivation "T" hone hcontent hderivation⟩

end WsdlTypes.Session
