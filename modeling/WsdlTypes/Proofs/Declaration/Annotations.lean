import WsdlTypes.Proofs.Declaration.Groups
/-!
# Annotations

Of an annotation its documentation is read, and so is every fragment in it that is one of the
elements searched for at any depth (`Xml.Element.isSought`), as if it stood outside. All else in it
may be left out: this is an abridgement (`Abridgement.annotations`). So documents that differ in
what else their annotations hold have their declarations described alike but for the documentation
(`Declaration.described_alike_of_annotations`), and a fragment that is searched for may change
everything (`Declaration.fragments_in_annotations_are_read`).
-/

namespace WsdlTypes

namespace Xml

/-- Whether an element in an annotation is passed over: none is that is searched for. -/
def Element.isRemarkIn (holder : StartTag) (e : Element) : Bool :=
  (Element.mk holder .nil).hasTag schemaUri "annotation" && !e.isSought

theorem Content.condensed_eq_nil {holder : StartTag}
    (hholder : (Element.mk holder .nil).hasTag schemaUri "annotation" = true) (c : Content)
    (h : ∀ x ∈ c.all, x.isSought = false) : c.condensed Element.isRemarkIn holder = [] := by
  match c with
  | .nil => rfl
  | .text _ rest => exact condensed_eq_nil hholder rest h
  | .element (.mk start content) rest =>
    have hchild : Element.isSought (.mk start content) = false :=
      h _ (List.mem_append_left _ (Element.self_mem_all _))
    rw [condensed_element, Element.isRemarkIn, hholder, hchild, Bool.not_false, Bool.and_true,
      if_pos rfl, Element.content_mk,
      condensed_eq_nil hholder content fun x hx =>
        h x (List.mem_append_left _ (List.mem_cons_of_mem _ hx)),
      condensed_eq_nil hholder rest fun x hx => h x (List.mem_append_right _ hx)]
    rfl

end Xml

namespace Abridgement

open Xml (Element)

theorem isRemarkIn_eq_false {e : Element} (h : e.hasTag schemaUri "annotation" = false)
    (x : Element) : x.isRemarkIn e.start = false := by
  have htag : (Element.mk e.start .nil).hasTag schemaUri "annotation" = false := by
    cases e; exact h
  rw [Element.isRemarkIn, htag, Bool.false_and]

/-- Elements whose annotations hold the fragments alone that are searched for. -/
def annotations : Abridgement :=
  condensing Element.isRemarkIn (fun e => e.hasTag schemaUri "annotation" = false)
    (fun h htag => Element.not_hasTag_of_ne h htag)
    (fun holder x hsought => by rw [Element.isRemarkIn, hsought, Bool.not_true, Bool.and_false])
    fun e he => .of_forall fun x _ => isRemarkIn_eq_false he x

/-- **Nothing is left of an annotation without such fragments.** -/
theorem abridge_annotations {e : Element} (he : e.hasTag schemaUri "annotation" = true)
    (h : ∀ x ∈ e.content.all, x.isSought = false) :
    annotations.abridge e = .mk e.start.unlined .nil := by
  cases e with
  | mk start content =>
    change Element.condensed Element.isRemarkIn (.mk start content) = _
    rw [Element.condensed, Xml.Content.condensed_eq_nil he content h]
    rfl

end Abridgement

namespace Declaration

/-- **Annotations are inert but for what is searched for.** An annotation in which nothing is
searched for is as good as empty; and where documents are the same once their annotations hold the
fragments alone that are searched for, every declaration is described alike but for the
documentation and reported alike but for the lines. Where all elements in a declaration are
particles its element properties come from these. -/
theorem described_alike_of_annotations (config : Config) (inherited : Nat → Option String)
    (order : List Nat) {documents documents' : List Document}
    (h : List.Forall₂ (Document.SameAbridged .annotations) documents documents') :
    let catalog := Catalog.ofDocuments documents inherited
    (∀ annotation : Xml.Element, annotation.hasTag schemaUri "annotation" = true →
        (∀ x ∈ annotation.content.all, x.isSought = false) →
        Abridgement.annotations.abridge annotation = .mk annotation.start.unlined .nil) ∧
      List.Forall₂ (DescribedAlike config catalog (Catalog.ofDocuments documents' inherited))
        (catalog.declarationsOf order)
        ((Catalog.ofDocuments documents' inherited).declarationsOf order) ∧
      ∀ schema e type, (describeAny config catalog schema e).value = some type →
        (members config catalog schema e).map Prod.snd = type.properties ∧
          ((holderOf e).inside schemaUri "element" = (holderOf e).particles →
            ∀ m ∈ members config catalog schema e, m.1 = .element →
              ∃ x ∈ (holderOf e).particles,
                m.2 = (Member.ofElement catalog schema x).value) := by
  refine ⟨fun _ => Abridgement.abridge_annotations,
    Abridgement.annotations.forall₂_declarationsOf h config inherited order,
    fun schema e type htype => ⟨map_snd_members htype, fun hparticles m hm helement => ?_⟩⟩
  rw [← hparticles]
  exact exists_inside_of_mem_members hm helement

/-- A type `T` with an annotation in front of an element. -/
def annotatedType (remarks : List (String ⊕ Xml.Element)) : Xml.Element :=
  tagOn "complexType" [("name", "T")] 2
    [.mk { uri := some schemaUri, name := "annotation" } (.ofList remarks),
      tagOn "sequence" [] 3 [tagOn "element" [("name", "a"), ("type", "s:int")] 3 []]]

/-- What an annotation says in words, with a list of numbers as an example. -/
def remarks : List (String ⊕ Xml.Element) :=
  [.inr (.mk { uri := some schemaUri, name := "documentation" } (.text "words" .nil)),
    .inr (tagOn "appinfo" [] 2
      [tagOn "simpleType" [("name", "S")] 2 [tagOn "list" [("itemType", "s:int")] 2 []]])]

/-- Without the remarks the type has the same property `a`. -/
theorem described_alike_of_remarks :
    let remarked := annotatedType remarks
    let document := documentOf remarked
    let bare := documentOf (annotatedType [])
    let catalog := Catalog.ofDocuments [document] fun _ => none
    let catalog' := Catalog.ofDocuments [bare] fun _ => none
    let schema := schemaWith remarked
    List.Forall₂ (Document.SameAbridged .annotations) [document] [bare] ∧
      List.Forall₂ (DescribedAlike {} catalog catalog') (catalog.declarationsOf [0])
        (catalog'.declarationsOf [0]) ∧
      (schema, remarked) ∈ catalog.declarationsOf [0] ∧
      (holderOf remarked).inside schemaUri "element" = (holderOf remarked).particles ∧
      ∃ type, (describeAny {} catalog schema remarked).value = some type ∧
        type.documentation = some "words" ∧ type.properties.map Property.name = ["a"] ∧
        ∀ m ∈ members {} catalog schema remarked, m.1 = .element →
          ∃ x ∈ (holderOf remarked).particles,
            m.2 = (Member.ofElement catalog schema x).value := by
  intro remarked document bare catalog catalog' schema
  have hsame : List.Forall₂ (Document.SameAbridged .annotations) [document] [bare] :=
    .cons ⟨rfl, rfl, rfl⟩ .nil
  obtain ⟨-, halike, hmade⟩ := described_alike_of_annotations {} (fun _ => none) [0] hsame
  have hparticles : (holderOf remarked).inside schemaUri "element"
      = (holderOf remarked).particles := rfl
  have hdescribed : (describeAny {} catalog schema remarked).value.map (fun type =>
      (type.documentation, type.properties.map Property.name))
        = some (some "words", ["a"]) := by
    decide +kernel
  obtain ⟨type, htype, heq⟩ := Option.map_eq_some_iff.1 hdescribed
  obtain ⟨hdocumentation, hnames⟩ := Prod.mk.inj heq
  exact ⟨hsame, halike, List.mem_singleton_self _, hparticles, type, htype, hdocumentation, hnames,
    (hmade schema remarked type htype).2 hparticles⟩

/-- The descriptor of a type `T` that is nothing but annotated with fragments of a schema, and what
is reported of it. -/
def annotatedWith (fragments : List Xml.Element) : Report TypeDescriptor :=
  describe {} ⟨[], []⟩ plainSchema
    (tagOn "complexType" [("name", "T")] 1
      [tagOn "annotation" [] 1 [tagOn "appinfo" [] 1 fragments]]) "T"

/-- **Fragments in annotations are read.** Without one the type has no property and is not reported.
An element or an attribute in the annotation adds a property, a simple content makes a value of the
type, a complex content makes it extend another, and a complex type has it rejected. -/
theorem fragments_in_annotations_are_read :
    ((annotatedWith []).value.properties = [] ∧ (annotatedWith []).value.parent = none ∧
        (annotatedWith []).findings = []) ∧
      (annotatedWith [tagOn "element" [("name", "x"), ("type", "s:int")] 1 []]).value.properties
        = [{ name := "x", type := .scalar .integer, source := "s:int" }] ∧
      (annotatedWith [tagOn "attribute" [("name", "x")] 1 []]).value.properties
        = [{ name := "x", type := .scalar .string, source := "" }] ∧
      (annotatedWith [tagOn "simpleContent" [] 1
          [tagOn "extension" [("base", "s:int")] 1 []]]).value.properties
        = [{ name := "_", type := .scalar .integer, source := "s:int" }] ∧
      (annotatedWith [tagOn "complexContent" [] 1
          [tagOn "extension" [("base", "B")] 1 []]]).value.parent = some ⟨"", "B"⟩ ∧
      (annotatedWith [tagOn "complexType" [] 1 []]).findings
        = [⟨.nestedComplexType "T", "a", 1⟩] := by
  decide +kernel

end Declaration

end WsdlTypes
