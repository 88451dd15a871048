import WsdlTypes.Proofs.Declaration.Condensed
import WsdlTypes.Proofs.Declaration.Inline
import WsdlTypes.Proofs.Declaration.Particles
import WsdlTypes.Proofs.Walk.Abridged
/-!
# Groups

How the elements of a content model are grouped is not read: to dissolve the models is an
abridgement (`Abridgement.groups`). So documents that differ in their groups alone, and a document
whose models are each written as one sequence, have their declarations described alike, with one
property for each particle, unless a declaration is rejected for a complex type inside
(`Declaration.described_alike_of_regrouped`).
-/

namespace WsdlTypes

namespace Abridgement

open Xml (Element)

/-- Nothing that is searched for is a group. -/
theorem isSought_eq_false_of_isGroup {e : Element} (h : e.isGroup = true) :
    e.isSought = false := by
  have htag : ∀ tag ∉ ["sequence", "choice", "all"], e.hasTag schemaUri tag = false :=
    Element.hasTag_eq_false_of_isGroup h
  simp only [Element.isSought, Element.soughtTags, List.any_cons, List.any_nil,
    htag "schema" (by decide), htag "complexType" (by decide), htag "simpleContent" (by decide),
    htag "complexContent" (by decide), htag "element" (by decide), htag "attribute" (by decide),
    htag "restriction" (by decide), Bool.false_and, Bool.or_false]

/-- Where a model stands nothing is looked up but parts. -/
theorem isPartOf_eq_false {holder e : Element} (hholder : holder.start.holdsModel = true)
    (h : ∀ tag ∈ Element.partTags, e.hasTag schemaUri tag = false) :
    holder.isPartOf e = false := by
  have hschema : holder.hasTag schemaUri "schema" = false := by
    obtain ⟨tag, htag, hhas⟩ := List.any_eq_true.1 hholder
    have hne : tag ≠ "schema" := by
      rintro rfl
      revert htag
      decide
    exact Element.not_hasTag_of_ne hhas hne
  rw [Element.isPartOf, hschema, Bool.false_and, Bool.or_false]
  exact List.any_eq_false.2 fun tag htag => by rw [h tag htag]; exact Bool.false_ne_true

/-- When models dissolve nothing comes or goes that is looked up. -/
theorem keeps_isModelIn (e : Element) : Keeps Element.isModelIn e := by
  cases hholder : e.start.holdsModel with
  | false => exact .of_forall fun x _ => Element.isModelIn_eq_false hholder x
  | true =>
    refine ⟨fun x _ hmodel => ?_, fun hname => ?_⟩
    · rw [Element.isModelIn, Bool.and_eq_true] at hmodel
      refine ⟨isPartOf_eq_false hholder fun tag htag => ?_, List.filter_eq_nil_iff.2 ?_⟩
      · refine Element.hasTag_eq_false_of_isGroup (Element.isGroup_of_isModel hmodel.2) tag ?_
        revert tag
        decide
      · intro y hy
        rw [x.content.condensed_of_isModel hholder (Element.content_isModel hmodel.2)] at hy
        obtain ⟨particle, hparticle, rfl⟩ := List.mem_map.1 hy
        rw [isPartOf_eq_false hholder fun tag htag => ?_]
        · exact Bool.false_ne_true
        · rw [Element.ungrouped, Element.hasTag_condensed]
          refine Element.not_hasTag_of_ne (Xml.Content.hasTag_of_mem_particles hparticle) ?_
          rintro rfl
          revert htag
          decide
    · obtain ⟨tag, htag, hhas⟩ := List.any_eq_true.1 hholder
      rw [Element.hasTag, Bool.and_eq_true, beq_iff_eq, beq_iff_eq] at hhas
      obtain rfl : tag = "restriction" := hhas.2.symm.trans hname
      exact absurd htag (by decide)

/-- Elements in which the content models are dissolved. -/
def groups : Abridgement :=
  condensing Element.isModelIn (fun _ => True) (fun _ _ => trivial)
    (fun holder x hsought => by
      cases hmodel : x.isModelIn holder with
      | false => rfl
      | true =>
        rw [Element.isModelIn, Bool.and_eq_true] at hmodel
        rw [isSought_eq_false_of_isGroup (Element.isGroup_of_isModel hmodel.2)] at hsought
        cases hsought)
    fun e _ => keeps_isModelIn e

end Abridgement

namespace Declaration

/-- **How elements are grouped does not matter.** Where documents are the same once their content
models are dissolved, and so where each model is written as one sequence of its particles, every
declaration is described alike but for the documentation and reported alike but for the lines. A
declaration whose content is a model has one property for each particle, in document order, and
those of the attributes behind them; only one with complex types inside its complex type is rejected
with neither parent nor properties, and nothing else is reported of it. -/
theorem described_alike_of_regrouped (config : Config) (inherited : Nat → Option String)
    (order : List Nat) {documents documents' : List Document}
    (h : List.Forall₂ (Document.SameAbridged .groups) documents documents') :
    let catalog := Catalog.ofDocuments documents inherited
    (∀ document : Document, document.SameAbridged .groups
        { document with root := document.root.sequenced }) ∧
      List.Forall₂ (DescribedAlike config catalog (Catalog.ofDocuments documents' inherited))
        (catalog.declarationsOf order)
        ((Catalog.ofDocuments documents' inherited).declarationsOf order) ∧
      ∀ schema e name,
        (isNested e = false → Modelled e →
          (describe config catalog schema e name).value.properties
            = (holderOf e).particles.map (fun x => (Member.ofElement catalog schema x).value)
              ++ (Member.attributes catalog schema (holderOf e)).value) ∧
        (isNested e = true →
          (describe config catalog schema e name).value.parent = none ∧
            (describe config catalog schema e name).value.properties = [] ∧
            (describe config catalog schema e name).findings
              = [⟨.nestedComplexType name, schema.location, e.line⟩]) := by
  refine ⟨fun document => ⟨rfl, rfl, document.root.ungrouped_sequenced⟩,
    Abridgement.groups.forall₂_declarationsOf h config inherited order,
    fun schema e name => ⟨fun hone hmodelled => ?_, fun hnested => ?_⟩⟩
  · exact hmodelled.properties_describe config _ schema hone name
  · exact describe_of_isNested config _ schema hnested name

/-- A type `T` whose content model nests groups. -/
def nestedGroups : Xml.Element :=
  tagOn "complexType" [("name", "T")] 2
    [tagOn "choice" [] 3
      [tagOn "element" [("name", "a"), ("type", "s:int")] 4 [],
        tagOn "sequence" [] 5 [tagOn "element" [("ref", "b")] 6 [], tagOn "all" [] 7 []]],
      tagOn "attribute" [("name", "c"), ("type", "s:string")] 8 []]

/-- A document with a schema of one declaration. -/
def documentOf (e : Xml.Element) : Document where
  id := 0
  location := .file "a"
  text := ""
  root := tagOn "schema" [] 1 [e]

/-- The schema of a document with one declaration. -/
def schemaWith (e : Xml.Element) : Schema where
  document := 0
  location := "a"
  element := (documentOf e).root
  target := ""

/-- The type has the properties `a`, `b` and `c`, and so it has with its model written as one
sequence. -/
theorem described_alike_of_nestedGroups :
    let document := documentOf nestedGroups
    let sequenced := { document with root := document.root.sequenced }
    let catalog := Catalog.ofDocuments [document] fun _ => none
    let catalog' := Catalog.ofDocuments [sequenced] fun _ => none
    let schema := schemaWith nestedGroups
    List.Forall₂ (Document.SameAbridged .groups) [document] [sequenced] ∧
      List.Forall₂ (DescribedAlike {} catalog catalog') (catalog.declarationsOf [0])
        (catalog'.declarationsOf [0]) ∧
      (schema, nestedGroups) ∈ catalog.declarationsOf [0] ∧
      isNested nestedGroups = false ∧ Modelled nestedGroups ∧
      (describe {} catalog schema nestedGroups "T").value.properties.map Property.name
        = ["a", "b", "c"] ∧
      (describe {} catalog schema nestedGroups "T").value.properties
        = (holderOf nestedGroups).particles.map (fun x =>
            (Member.ofElement catalog schema x).value)
          ++ (Member.attributes catalog schema (holderOf nestedGroups)).value := by
  intro document sequenced catalog catalog' schema
  have hsame : List.Forall₂ (Document.SameAbridged .groups) [document] [sequenced] :=
    .cons ⟨rfl, rfl, document.root.ungrouped_sequenced⟩ .nil
  obtain ⟨-, halike, hmade⟩ := described_alike_of_regrouped {} (fun _ => none) [0] hsame
  have hone : isNested nestedGroups = false := by decide +kernel
  have hmodelled : Modelled nestedGroups := ⟨rfl, rfl, rfl⟩
  exact ⟨hsame, halike, List.mem_singleton_self _, hone, hmodelled, by decide +kernel,
    (hmade schema nestedGroups "T").1 hone hmodelled⟩

/-- A type `T` that offers a choice of one element, whose type is declared in place. -/
def choiceInPlace : Xml.Element :=
  tagOn "complexType" [("name", "T")] 1
    [tagOn "choice" [] 2 [tagOn "element" [("name", "a")] 3 [tagOn "complexType" [] 4 []]]]

/-- **An element whose complex type is declared in place leaves the type without properties**, and
so there is none for the element. -/
theorem choice_in_place_is_rejected :
    choiceInPlace.elements.all (·.isModel) = true ∧
      choiceInPlace.particles.map (·.attributeD "name") = ["a"] ∧
      (describe {} ⟨[], []⟩ plainSchema choiceInPlace "T").value.properties = [] ∧
      (describe {} ⟨[], []⟩ plainSchema choiceInPlace "T").findings
        = [⟨.nestedComplexType "T", "a", 1⟩] := by
  decide +kernel

end Declaration

end WsdlTypes
