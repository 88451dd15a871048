import WsdlTypes.Declaration
/-!
# Abridgements

Little of a declaration is read. Some elements are searched for at any depth
(`Xml.Element.isSought`); others are looked up one level below their holder
(`Xml.Element.isPartOf`), as are the facets of a restriction; of each element that is found the
start tag counts. What else there is an `Abridgement` may drop: the abridged element holds the same
of what is read, abridged in turn.
-/

namespace WsdlTypes

namespace Xml.Element

/-- The tags of the elements that are searched for at any depth, whatever they say. -/
def soughtTags : List String :=
  ["schema", "complexType", "simpleContent", "complexContent", "element"]

/-- Whether an element is one that is searched for at any depth. A prohibited attribute is not,
nor is a restriction that names no base. -/
def isSought (e : Element) : Bool :=
  soughtTags.any (e.hasTag schemaUri ·)
    || (e.hasTag schemaUri "attribute" && e.attribute? "use" != some "prohibited")
    || (e.hasTag schemaUri "restriction" && (e.attribute? "base").isSome)

/-- The tags of the elements that are looked up one level below their holder. -/
def partTags : List String :=
  ["complexType", "simpleType", "extension", "restriction", "list", "union"]

/-- Whether an element one level below another is looked up there. -/
def isPartOf (holder e : Element) : Bool :=
  partTags.any (e.hasTag schemaUri ·)
    || (holder.hasTag schemaUri "schema"
      && ["element", "attribute"].any (e.hasTag schemaUri ·))

theorem isSought_of_hasTag {e : Element} {tag : String} (h : e.hasTag schemaUri tag = true)
    (htag : tag ∈ soughtTags) : e.isSought = true := by
  have hany : soughtTags.any (e.hasTag schemaUri ·) = true := List.any_eq_true.2 ⟨tag, htag, h⟩
  rw [isSought, hany, Bool.true_or, Bool.true_or]

theorem isPartOf_of_hasTag {holder e : Element} {tag : String}
    (h : e.hasTag schemaUri tag = true) (htag : tag ∈ partTags) : isPartOf holder e = true := by
  have hany : partTags.any (e.hasTag schemaUri ·) = true := List.any_eq_true.2 ⟨tag, htag, h⟩
  rw [isPartOf, hany, Bool.true_or]

end Xml.Element

/-- A way to abridge elements by what is not read of them. -/
structure Abridgement where
  abridge : Xml.Element → Xml.Element
  /-- The elements whose parts are kept. -/
  covers : Xml.Element → Prop
  covers_of_hasTag {e : Xml.Element} {tag : String} (h : e.hasTag schemaUri tag = true)
    (htag : tag ≠ "annotation") : covers e
  /-- The start tag says the same but for the line. -/
  start (e : Xml.Element) : { (abridge e).start with line := 0 } = { e.start with line := 0 }
  sought (e : Xml.Element) :
    (abridge e).content.all.filter Xml.Element.isSought
      = (e.content.all.filter Xml.Element.isSought).map abridge
  parts {e : Xml.Element} (h : covers e) :
    (abridge e).elements.filter (e.isPartOf ·) = (e.elements.filter (e.isPartOf ·)).map abridge
  facets {e : Xml.Element} (h : covers e) (hname : e.name = "restriction") :
    SimpleType.facets (abridge e) = SimpleType.facets e

namespace Abridgement

open Xml (Element)

variable (A : Abridgement) {e : Element} {uri tag name qname : String}

/-! ## What an abridged element keeps -/

@[simp] theorem hasTag_abridge : (A.abridge e).hasTag uri tag = e.hasTag uri tag := by
  have h := A.start e
  simp only [Xml.StartTag.mk.injEq] at h
  simp only [Element.hasTag, h]

@[simp] theorem attribute?_abridge : (A.abridge e).attribute? name = e.attribute? name := by
  have h := A.start e
  simp only [Xml.StartTag.mk.injEq] at h
  simp only [Element.attribute?, h]

@[simp] theorem attributeD_abridge : (A.abridge e).attributeD name = e.attributeD name := by
  rw [Element.attributeD, attribute?_abridge, Element.attributeD]

@[simp] theorem name_abridge : (A.abridge e).name = e.name := by
  have h := A.start e
  simp only [Xml.StartTag.mk.injEq] at h
  exact h.2.1

@[simp] theorem scope_abridge : (A.abridge e).scope = e.scope := by
  have h := A.start e
  simp only [Xml.StartTag.mk.injEq] at h
  exact h.2.2.2.1

/-- To narrow a list twice is to narrow it by the narrower condition. -/
theorem filter_eq_filter_filter {p q : Element → Bool} (h : ∀ x, q x = true → p x = true)
    (l : List Element) : l.filter q = (l.filter p).filter q := by
  rw [List.filter_filter]
  refine List.filter_congr fun x _ => ?_
  cases hx : q x with
  | false => rfl
  | true => rw [h x hx]; rfl

/-- Of what is searched for nothing is lost. -/
theorem filter_content {q : Element → Bool} (hsought : ∀ x, q x = true → x.isSought = true)
    (hq : ∀ x, q (A.abridge x) = q x) :
    (A.abridge e).content.all.filter q = (e.content.all.filter q).map A.abridge := by
  have hnarrow : ∀ l : List Element, l.filter q = (l.filter Element.isSought).filter q :=
    filter_eq_filter_filter hsought
  rw [hnarrow, A.sought, List.filter_map, hnarrow e.content.all]
  congr 2
  funext x
  exact hq x

theorem filter_all {q : Element → Bool} (hsought : ∀ x, q x = true → x.isSought = true)
    (hq : ∀ x, q (A.abridge x) = q x) :
    (A.abridge e).all.filter q = (e.all.filter q).map A.abridge := by
  simp only [Element.all_eq, List.filter_cons, hq, A.filter_content hsought hq]
  split <;> rfl

/-- Nor of what is looked up. -/
theorem filter_elements (h : A.covers e) {q : Element → Bool}
    (hpart : ∀ x, q x = true → e.isPartOf x = true) (hq : ∀ x, q (A.abridge x) = q x) :
    (A.abridge e).elements.filter q = (e.elements.filter q).map A.abridge := by
  have hnarrow : ∀ l : List Element, l.filter q = (l.filter (e.isPartOf ·)).filter q :=
    filter_eq_filter_filter hpart
  rw [hnarrow, A.parts h, List.filter_map, hnarrow e.elements]
  congr 2
  funext x
  exact hq x

theorem find?_elements (h : A.covers e) {q : Element → Bool}
    (hpart : ∀ x, q x = true → e.isPartOf x = true) (hq : ∀ x, q (A.abridge x) = q x) :
    (A.abridge e).elements.find? q = (e.elements.find? q).map A.abridge := by
  rw [← List.head?_filter, A.filter_elements h hpart hq, List.head?_map, List.head?_filter]

section

variable (tag) (htag : tag ∈ Element.soughtTags)

include htag

theorem inside_abridge :
    (A.abridge e).inside schemaUri tag = (e.inside schemaUri tag).map A.abridge :=
  A.filter_content (fun _ hx => Element.isSought_of_hasTag hx htag) fun _ => A.hasTag_abridge

theorem descendants_abridge :
    (A.abridge e).descendants schemaUri tag = (e.descendants schemaUri tag).map A.abridge :=
  A.filter_all (fun _ hx => Element.isSought_of_hasTag hx htag) fun _ => A.hasTag_abridge

theorem descendant?_abridge :
    (A.abridge e).descendant? schemaUri tag = (e.descendant? schemaUri tag).map A.abridge := by
  rw [Element.descendant?_eq_head?, A.descendants_abridge tag htag, List.head?_map,
    Element.descendant?_eq_head?]

end

theorem child?_abridge (h : A.covers e) (tag : String) (htag : tag ∈ Element.partTags) :
    (A.abridge e).child? schemaUri tag = (e.child? schemaUri tag).map A.abridge :=
  A.find?_elements h (fun _ hx => Element.isPartOf_of_hasTag hx htag) fun _ => A.hasTag_abridge

theorem covers_of_child? {child : Element} (h : e.child? schemaUri tag = some child)
    (htag : tag ∈ Element.partTags) : A.covers child := by
  have hchild := List.find?_some h
  refine A.covers_of_hasTag hchild ?_
  rintro rfl
  revert htag
  decide

theorem hasInlineType_abridge (h : A.covers e) :
    hasInlineType (A.abridge e) = hasInlineType e := by
  simp only [hasInlineType, A.child?_abridge h "complexType" (by decide),
    A.child?_abridge h "simpleType" (by decide), Option.isSome_map]

theorem isNested_abridge : Declaration.isNested (A.abridge e) = Declaration.isNested e := by
  simp only [Declaration.isNested, A.descendants_abridge "complexType" (by decide),
    List.length_map]

/-- The restrictions that name no base may be passed over. -/
theorem namedBase?_eq_findSome? (e : Element) : namedBase? e
    = (e.all.filter fun x =>
        x.hasTag schemaUri "restriction" && (x.attribute? "base").isSome).findSome? fun x =>
          (x.attribute? "base").map (x, ·) := by
  simp only [namedBase?, Element.descendants, ← List.head?_filterMap, List.filterMap_filter]
  congr 2
  funext x
  cases x.attribute? "base" with
  | none => simp only [Option.map_none, ite_self]
  | some base => simp only [Option.isSome_some, Bool.and_true]

/-- A restriction that names its base is the one that it was. -/
theorem namedBase?_abridge :
    namedBase? (A.abridge e) = (namedBase? e).map fun found => (A.abridge found.1, found.2) := by
  have hsought : ∀ x : Element,
      (x.hasTag schemaUri "restriction" && (x.attribute? "base").isSome) = true
        → x.isSought = true := fun x hx => by rw [Element.isSought, hx, Bool.or_true]
  rw [namedBase?_eq_findSome?, namedBase?_eq_findSome?, A.filter_all hsought fun x => by
    rw [hasTag_abridge, attribute?_abridge], List.findSome?_map, List.map_findSome?]
  congr 1
  funext x
  simp only [Function.comp_apply, attribute?_abridge, Option.map_map]
  rfl

theorem attributes_abridge :
    ((A.abridge e).inside schemaUri "attribute").filter (·.attribute? "use" != some "prohibited")
      = ((e.inside schemaUri "attribute").filter
          (·.attribute? "use" != some "prohibited")).map A.abridge := by
  simp only [Element.inside, List.filter_filter]
  refine A.filter_content (fun x hx => ?_) fun x => by rw [hasTag_abridge, attribute?_abridge]
  rw [Element.isSought, Bool.and_comm, hx, Bool.or_true, Bool.true_or]

theorem derivation?_abridge (h : A.covers e) :
    SimpleType.derivation? (A.abridge e) = (SimpleType.derivation? e).map A.abridge := by
  have hholder : ∀ holder : Element, A.covers holder →
      ((A.abridge holder).elements.find? fun child =>
          SimpleType.derivationTags.any (child.hasTag schemaUri ·))
        = (holder.elements.find? fun child =>
            SimpleType.derivationTags.any (child.hasTag schemaUri ·)).map A.abridge := by
    intro holder hcovers
    refine A.find?_elements hcovers (fun x hx => ?_) fun x => by simp only [hasTag_abridge]
    obtain ⟨tag, htag, hx⟩ := List.any_eq_true.1 hx
    refine Element.isPartOf_of_hasTag hx (List.mem_append_right ["complexType", "simpleType",
      "extension"] htag)
  simp only [SimpleType.derivation?, hasTag_abridge, A.child?_abridge h "simpleType"
    (by decide)]
  split
  · exact hholder e h
  · cases hchild : e.child? schemaUri "simpleType" with
    | none => exact hholder e h
    | some child =>
      exact hholder child (A.covers_of_child? hchild (by decide))

theorem covers_of_derivation? {derivation : Element}
    (h : SimpleType.derivation? e = some derivation) : A.covers derivation := by
  have hany := List.find?_some h
  obtain ⟨tag, htag, hderivation⟩ := List.any_eq_true.1 hany
  refine A.covers_of_hasTag hderivation ?_
  rintro rfl
  revert htag
  decide

theorem contentDerivation?_abridge (h : A.covers e) :
    Declaration.contentDerivation? (A.abridge e)
      = (Declaration.contentDerivation? e).map A.abridge := by
  refine A.find?_elements h (fun x hx => ?_) fun x => by simp only [hasTag_abridge]
  rcases Bool.or_eq_true _ _ ▸ hx with hx | hx
  · exact Element.isPartOf_of_hasTag hx (by decide)
  · exact Element.isPartOf_of_hasTag hx (by decide)

theorem covers_of_contentDerivation? {derivation : Element}
    (h : Declaration.contentDerivation? e = some derivation) : A.covers derivation := by
  have hx := List.find?_some h
  rcases Bool.or_eq_true _ _ ▸ hx with hx | hx
  · exact A.covers_of_hasTag hx (by decide)
  · exact A.covers_of_hasTag hx (by decide)

end Abridgement

end WsdlTypes
