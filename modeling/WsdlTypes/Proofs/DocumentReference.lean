import WsdlTypes.DocumentReference
import WsdlTypes.Proofs.Xml.Places
import WsdlTypes.Xml.Document
/-!
# References of a document, one by one

Every import of a service description and every import and include of a schema is listed once, and
nothing else is (`DocumentReference.mem_cited_iff`). The imports of the service description come
first and those of one schema after those of the other, so the list is in document order for some
documents only: none of a schema may stand in front of one of the service description, and none of a
schema inside another one in front of one of the outer (`DocumentReference.references_listed`).
-/

namespace WsdlTypes

/-- Two places in a list in document order are related where the first stands in front of the
second. -/
theorem Xml.Element.pairwise_iff_of_lt {α : Type} {R : List Nat × α → List Nat × α → Prop}
    {l : List (List Nat × α)} (hordered : (l.map Prod.fst).Pairwise (· < ·)) :
    l.Pairwise R ↔ ∀ x ∈ l, ∀ y ∈ l, x.1 < y.1 → R x y := by
  rw [List.pairwise_map] at hordered
  refine ⟨fun hpairwise => ?_, fun hforall => ?_⟩
  · induction l with
    | nil => exact fun x hx => absurd hx List.not_mem_nil
    | cons first rest ih =>
      obtain ⟨hfirst, hrest⟩ := List.pairwise_cons.1 hpairwise
      obtain ⟨hbefore, hordered⟩ := List.pairwise_cons.1 hordered
      intro x hx y hy hlt
      rcases List.mem_cons.1 hx with rfl | hx' <;> rcases List.mem_cons.1 hy with rfl | hy'
      · exact absurd hlt (List.lt_irrefl _)
      · exact hfirst y hy'
      · exact absurd hlt (List.lt_asymm (hbefore x hx'))
      · exact ih hordered hrest x hx' y hy' hlt
  · exact hordered.imp_of_mem fun hx hy hlt => hforall _ hx _ hy hlt

namespace DocumentReference

open Xml (Element)

variable {root e : Element} {place outer inner : List Nat} {i j : Nat}
variable {reference : DocumentReference} {reference? : Element → Option DocumentReference}

/-! ## What refers to other documents -/

/-- The root is a service description, and the child of this index is an import with a
location. -/
def Imports (root : Element) (i : Nat) (reference : DocumentReference) : Prop :=
  isDefinitions root = true ∧ ∃ e location, root.elements[i]? = some e ∧
    e.hasTag wsdlUri "import" = true ∧ e.attribute? "location" = some location ∧
    reference = ⟨location, e.line, none⟩

/-- There is a schema at the place, and its child of this index is an import or an include with the
location of a schema. -/
def Mentions (root : Element) (place : List Nat) (i : Nat) (reference : DocumentReference) : Prop :=
  ∃ schema e location, root.at? place = some schema ∧ schema.hasTag schemaUri "schema" = true ∧
    schema.elements[i]? = some e ∧ e.attribute? "schemaLocation" = some location ∧
    (e.hasTag schemaUri "import" = true ∧ reference = ⟨location, e.line, none⟩ ∨
      e.hasTag schemaUri "include" = true ∧
        reference = ⟨location, e.line, some (schema.attributeD "targetNamespace")⟩)

/-- What stands at a place refers to another document. -/
def Refers (root : Element) (place : List Nat) (reference : DocumentReference) : Prop :=
  (∃ i, place = [i] ∧ Imports root i reference) ∨
    ∃ outer i, place = outer ++ [i] ∧ Mentions root outer i reference

/-- No reference of a schema stands in front of an import of the service description, nor one of a
schema inside another schema in front of one of the outer. -/
structure InOrder (root : Element) : Prop where
  imports {i j : Nat} {place : List Nat} {reference other : DocumentReference}
    (h : Imports root i reference) (hother : Mentions root place j other) : [i] < place ++ [j]
  nested {i j : Nat} {outer inner : List Nat} {reference other : DocumentReference}
    (h : Mentions root outer i reference) (hother : Mentions root inner j other)
    (hinside : outer <+: inner) (hne : outer ≠ inner) : outer ++ [i] < inner ++ [j]

/-! ## The references of the children of an element -/

/-- The references that the children of an element make, each with its place. -/
def ofChildren (reference? : Element → Option DocumentReference) (place : List Nat)
    (e : Element) : List (List Nat × DocumentReference) :=
  e.elements.zipIdx.filterMap fun child => (reference? child.1).map (place ++ [child.2], ·)

theorem map_snd_ofChildren :
    (ofChildren reference? place e).map Prod.snd = e.elements.filterMap reference? := by
  have hstep : (fun child : Element × Nat =>
      ((reference? child.1).map (place ++ [child.2], ·)).map Prod.snd)
        = fun child => reference? child.1 := by
    funext child
    rw [Option.map_map]
    exact Option.map_id'
  have hfirst : e.elements.zipIdx.map Prod.fst = e.elements := List.zipIdx_map_fst ..
  rw [ofChildren, List.map_filterMap, hstep]
  conv_rhs => rw [← hfirst, List.filterMap_map]
  rfl

theorem mem_ofChildren_iff {found : List Nat} :
    (found, reference) ∈ ofChildren reference? place e ↔
      ∃ i child, found = place ++ [i] ∧ e.elements[i]? = some child ∧
        reference? child = some reference := by
  rw [ofChildren, List.mem_filterMap]
  constructor
  · rintro ⟨⟨child, i⟩, hchild, hmap⟩
    obtain ⟨reference', hreference, heq⟩ := Option.map_eq_some_iff.1 hmap
    obtain ⟨rfl, rfl⟩ := Prod.mk.inj heq
    exact ⟨i, child, rfl, List.mem_zipIdx_iff_getElem?.1 hchild, hreference⟩
  · rintro ⟨i, child, rfl, hchild, hreference⟩
    refine ⟨(child, i), List.mem_zipIdx_iff_getElem?.2 hchild, ?_⟩
    rw [hreference]
    rfl

theorem concat_lt_concat_iff : place ++ [i] < place ++ [j] ↔ i < j := by
  induction place with
  | nil =>
    rw [List.nil_append, List.nil_append, List.cons_lt_cons_iff]
    exact or_iff_left fun h => List.lt_irrefl _ h.2
  | cons k rest ih =>
    rw [List.cons_append, List.cons_append, List.cons_lt_cons_self, ih]

/-- Below two places that part, the order is theirs. -/
theorem concat_lt_concat_of_lt (h : outer < inner) (hnot : ¬ outer <+: inner) (i j : Nat) :
    outer ++ [i] < inner ++ [j] := by
  induction outer generalizing inner with
  | nil => exact absurd List.nil_prefix hnot
  | cons k rest ih =>
    cases inner with
    | nil => exact absurd h (List.not_lt_nil _)
    | cons k' rest' =>
      rw [List.cons_append, List.cons_append, List.cons_lt_cons_iff]
      rcases List.cons_lt_cons_iff.1 h with hlt | ⟨rfl, hlt⟩
      · exact Or.inl hlt
      · exact Or.inr ⟨rfl, ih hlt fun hprefix => hnot (List.cons_prefix_cons.2 ⟨rfl, hprefix⟩)⟩

theorem pairwise_ofChildren :
    ((ofChildren reference? place e).map Prod.fst).Pairwise (· < ·) := by
  rw [ofChildren, List.map_filterMap, List.pairwise_filterMap]
  have hindices : e.elements.zipIdx.Pairwise fun a b => a.2 < b.2 := by
    rw [← List.pairwise_map, List.zipIdx_map_snd]
    exact List.pairwise_lt_range'
  refine hindices.imp fun {a b} hlt found hfound other hother => ?_
  simp only [Option.map_map, Option.map_eq_some_iff] at hfound hother
  obtain ⟨-, -, rfl⟩ := hfound
  obtain ⟨-, -, rfl⟩ := hother
  exact concat_lt_concat_iff.2 hlt

/-! ## All of them -/

/-- The reference that a child of a service description makes, if it makes one. -/
def ofImport? (e : Element) : Option DocumentReference :=
  if e.hasTag wsdlUri "import" then
    (e.attribute? "location").map fun location => ⟨location, e.line, none⟩
  else none

/-- The schemas of a document with their places, in document order. -/
def schemas (root : Element) : List (List Nat × Element) :=
  root.placed.filter fun found => found.2.hasTag schemaUri "schema"

/-- The references of a schema with their places. -/
def ofPlaced (found : List Nat × Element) : List (List Nat × DocumentReference) :=
  ofChildren (ofSchemaChild? (found.2.attributeD "targetNamespace")) found.1 found.2

/-- The imports of a service description with their places. -/
def placedImports (root : Element) : List (List Nat × DocumentReference) :=
  if isDefinitions root then ofChildren ofImport? [] root else []

/-- The references of a document as they are listed, each with the place of the element that makes
it. -/
def cited (root : Element) : List (List Nat × DocumentReference) :=
  placedImports root ++ (schemas root).flatMap ofPlaced

theorem ofDefinitions_eq_filterMap : ofDefinitions root = root.elements.filterMap ofImport? := by
  rw [ofDefinitions, Element.children, List.filterMap_filter]
  rfl

/-- They are the references of the document. -/
theorem map_snd_cited (root : Element) : (cited root).map Prod.snd = ofRoot root := by
  have himports : (placedImports root).map Prod.snd
      = if isDefinitions root then ofDefinitions root else [] := by
    unfold placedImports
    split
    · rw [map_snd_ofChildren, ofDefinitions_eq_filterMap]
    · rfl
  have hschemas : (schemas root).map Prod.snd = root.descendants schemaUri "schema" := by
    rw [schemas, Element.descendants, ← Element.map_snd_placed, List.filter_map]
    rfl
  have hplaced : ∀ found : List Nat × Element,
      (ofPlaced found).map Prod.snd = ofSchema found.2 := fun _ => map_snd_ofChildren
  rw [cited, List.map_append, himports, List.map_flatMap, ofRoot, ← hschemas, List.flatMap_map]
  simp only [hplaced]

theorem mem_schemas_iff :
    (place, e) ∈ schemas root ↔ root.at? place = some e ∧ e.hasTag schemaUri "schema" = true := by
  rw [schemas, List.mem_filter, Element.mem_placed_iff]

theorem pairwise_schemas (root : Element) : ((schemas root).map Prod.fst).Pairwise (· < ·) :=
  (Element.pairwise_placed root).sublist (List.filter_sublist.map _)

theorem mem_placedImports_iff :
    (place, reference) ∈ placedImports root ↔ ∃ i, place = [i] ∧ Imports root i reference := by
  unfold placedImports Imports
  split
  · rename_i hroot
    rw [mem_ofChildren_iff]
    constructor
    · rintro ⟨i, e, rfl, he, hreference⟩
      unfold ofImport? at hreference
      split at hreference
      · rename_i htag
        obtain ⟨location, hlocation, rfl⟩ := Option.map_eq_some_iff.1 hreference
        exact ⟨i, rfl, hroot, e, location, he, htag, hlocation, rfl⟩
      · cases hreference
    · rintro ⟨i, rfl, -, e, location, he, htag, hlocation, rfl⟩
      refine ⟨i, e, rfl, he, ?_⟩
      rw [ofImport?, if_pos htag, hlocation]
      rfl
  · rename_i hroot
    constructor
    · intro hmem
      cases hmem
    · rintro ⟨_, -, hroot', -⟩
      exact absurd hroot' hroot

theorem mem_ofPlaced_iff (hat : root.at? outer = some e)
    (hschema : e.hasTag schemaUri "schema" = true) :
    (place, reference) ∈ ofPlaced (outer, e) ↔
      ∃ i, place = outer ++ [i] ∧ Mentions root outer i reference := by
  unfold ofPlaced Mentions
  rw [mem_ofChildren_iff]
  constructor
  · rintro ⟨i, child, rfl, hchild, hreference⟩
    unfold ofSchemaChild? at hreference
    split at hreference
    · rename_i htag
      obtain ⟨location, hlocation, rfl⟩ := Option.map_eq_some_iff.1 hreference
      exact ⟨i, rfl, e, child, location, hat, hschema, hchild, hlocation, Or.inr ⟨htag, rfl⟩⟩
    · split at hreference
      · rename_i htag
        obtain ⟨location, hlocation, rfl⟩ := Option.map_eq_some_iff.1 hreference
        exact ⟨i, rfl, e, child, location, hat, hschema, hchild, hlocation, Or.inl ⟨htag, rfl⟩⟩
      · cases hreference
  · rintro ⟨i, rfl, schema, child, location, hat', -, hchild, hlocation, hmade⟩
    obtain rfl : e = schema := Option.some.inj (hat.symm.trans hat')
    refine ⟨i, child, rfl, hchild, ?_⟩
    rcases hmade with ⟨htag, rfl⟩ | ⟨htag, rfl⟩
    · have hother : child.hasTag schemaUri "include" = false := by
        simp only [Element.hasTag, Bool.and_eq_true, beq_iff_eq] at htag
        simp only [Element.hasTag, htag.2]
        exact Bool.and_false _
      rw [ofSchemaChild?, hother, if_neg Bool.false_ne_true, if_pos htag, hlocation]
      rfl
    · rw [ofSchemaChild?, if_pos htag, hlocation]
      rfl

/-- **What is listed is what refers to other documents.** -/
theorem mem_cited_iff : (place, reference) ∈ cited root ↔ Refers root place reference := by
  rw [cited, List.mem_append, mem_placedImports_iff, List.mem_flatMap, Refers]
  refine or_congr_right ?_
  constructor
  · rintro ⟨⟨outer, schema⟩, hschema, hmem⟩
    obtain ⟨hat, htag⟩ := mem_schemas_iff.1 hschema
    obtain ⟨i, rfl, hmentions⟩ := (mem_ofPlaced_iff hat htag).1 hmem
    exact ⟨outer, i, rfl, hmentions⟩
  · rintro ⟨outer, i, rfl, hmentions⟩
    obtain ⟨schema, -, -, hat, htag, -⟩ := id hmentions
    exact ⟨(outer, schema), mem_schemas_iff.2 ⟨hat, htag⟩,
      (mem_ofPlaced_iff hat htag).2 ⟨i, rfl, hmentions⟩⟩

/-! ## The order they come in -/

/-- How the places that are listed are related to one another. -/
theorem pairwise_cited_iff {Q : List Nat → List Nat → Prop} (hQ : ∀ p q, p < q → Q p q) :
    ((cited root).map Prod.fst).Pairwise Q ↔
      (∀ i reference place j other, Imports root i reference → Mentions root place j other →
        Q [i] (place ++ [j])) ∧
      ∀ outer i reference inner j other, Mentions root outer i reference →
        Mentions root inner j other → outer < inner → Q (outer ++ [i]) (inner ++ [j]) := by
  have himports : (placedImports root).Pairwise fun x y => Q x.1 y.1 := by
    unfold placedImports
    split
    · exact (List.pairwise_map.1 pairwise_ofChildren).imp fun hlt => hQ _ _ hlt
    · exact List.Pairwise.nil
  have hplaced : ∀ found ∈ schemas root, (ofPlaced found).Pairwise fun x y => Q x.1 y.1 :=
    fun found _ => (List.pairwise_map.1 pairwise_ofChildren).imp fun hlt => hQ _ _ hlt
  rw [List.pairwise_map, cited, List.pairwise_append, List.pairwise_flatMap,
    Xml.Element.pairwise_iff_of_lt (pairwise_schemas root)]
  constructor
  · rintro ⟨-, ⟨-, hnested⟩, hcross⟩
    refine ⟨fun i reference place j other himported hmentions => ?_,
      fun outer i reference inner j other hmentions hmentions' hlt => ?_⟩
    · obtain ⟨schema, -, -, hat, htag, -⟩ := id hmentions
      exact hcross _ (mem_placedImports_iff.2 ⟨i, rfl, himported⟩) _
        (List.mem_flatMap.2 ⟨(place, schema), mem_schemas_iff.2 ⟨hat, htag⟩,
          (mem_ofPlaced_iff hat htag).2 ⟨j, rfl, hmentions⟩⟩)
    · obtain ⟨schema, -, -, hat, htag, -⟩ := id hmentions
      obtain ⟨schema', -, -, hat', htag', -⟩ := id hmentions'
      exact hnested _ (mem_schemas_iff.2 ⟨hat, htag⟩) _ (mem_schemas_iff.2 ⟨hat', htag'⟩) hlt
        _ ((mem_ofPlaced_iff hat htag).2 ⟨i, rfl, hmentions⟩)
        _ ((mem_ofPlaced_iff hat' htag').2 ⟨j, rfl, hmentions'⟩)
  · rintro ⟨hcross, hnested⟩
    refine ⟨himports, ⟨hplaced, ?_⟩, ?_⟩
    · rintro ⟨outer, schema⟩ hschema ⟨inner, schema'⟩ hschema' hlt ⟨_, reference⟩ hx ⟨_, other⟩ hy
      obtain ⟨hat, htag⟩ := mem_schemas_iff.1 hschema
      obtain ⟨hat', htag'⟩ := mem_schemas_iff.1 hschema'
      obtain ⟨i, rfl, hmentions⟩ := (mem_ofPlaced_iff hat htag).1 hx
      obtain ⟨j, rfl, hmentions'⟩ := (mem_ofPlaced_iff hat' htag').1 hy
      exact hnested _ _ _ _ _ _ hmentions hmentions' hlt
    · rintro ⟨_, reference⟩ hx ⟨_, other⟩ hy
      obtain ⟨i, rfl, himported⟩ := mem_placedImports_iff.1 hx
      obtain ⟨⟨outer, schema⟩, hschema, hy⟩ := List.mem_flatMap.1 hy
      obtain ⟨hat, htag⟩ := mem_schemas_iff.1 hschema
      obtain ⟨j, rfl, hmentions⟩ := (mem_ofPlaced_iff hat htag).1 hy
      exact hcross _ _ _ _ _ himported hmentions

/-- A service description is no schema, so what a schema mentions stands further down than what it
imports. -/
theorem Imports.ne_of_mentions {other : DocumentReference} (h : Imports root i reference)
    (hmentions : Mentions root place j other) : [i] ≠ place ++ [j] := by
  intro heq
  cases place with
  | cons k rest => cases rest <;> cases heq
  | nil =>
    obtain ⟨schema, -, -, hat, htag, -⟩ := hmentions
    rw [Element.at?_nil, Option.some.injEq] at hat
    have hroot := h.1
    subst hat
    simp only [isDefinitions, Element.hasTag, Bool.and_eq_true, beq_iff_eq] at hroot htag
    exact absurd (hroot.2.symm.trans htag.2) (by decide)

/-- Every place is listed once. -/
theorem nodup_cited (root : Element) : ((cited root).map Prod.fst).Nodup := by
  refine (pairwise_cited_iff fun p q hlt heq => ?_).2
    ⟨fun i reference place j other himported hmentions => himported.ne_of_mentions hmentions,
      fun outer i reference inner j other _ _ hlt heq => ?_⟩
  · exact List.lt_irrefl _ (heq ▸ hlt)
  · exact List.lt_irrefl _ ((List.append_inj' heq rfl).1 ▸ hlt)

/-- What stands inside comes later in document order. -/
theorem lt_of_inside (h : outer <+: inner) (hne : outer ≠ inner) : outer < inner := by
  obtain ⟨way, rfl⟩ := h
  cases way with
  | nil => exact absurd (List.append_nil _).symm hne
  | cons k rest =>
    have hlt : outer ++ [] < outer ++ k :: rest := List.append_left_lt (List.nil_lt_cons _ _)
    rwa [List.append_nil] at hlt

/-- **What is listed is in document order** exactly where no reference of a schema stands in front
of an import of the service description or of one of a schema around it. -/
theorem pairwise_cited_lt_iff :
    ((cited root).map Prod.fst).Pairwise (· < ·) ↔ InOrder root := by
  rw [pairwise_cited_iff fun _ _ hlt => hlt]
  constructor
  · rintro ⟨hcross, hnested⟩
    exact ⟨hcross _ _ _ _ _, fun h hother hinside hne =>
      hnested _ _ _ _ _ _ h hother (lt_of_inside hinside hne)⟩
  · intro h
    refine ⟨fun _ _ _ _ _ => h.imports, fun outer i _ inner j _ hmentions hother hlt => ?_⟩
    by_cases hinside : outer <+: inner
    · exact h.nested hmentions hother hinside fun heq => List.lt_irrefl _ (heq ▸ hlt)
    · exact concat_lt_concat_of_lt hlt hinside i j

/-- **The references of a document.** Each of them is made by an element of the document, told by
its place: an import of the service description with a location, or an import or include of a
schema with the location of another. All elements of this kind make one, each once. They are in
document order exactly where no import or include of a schema stands in front of an import of the
service description, nor one of a schema inside another one in front of one of the outer. -/
theorem references_listed (root : Element) :
    (cited root).map Prod.snd = ofRoot root ∧
      (∀ place reference, (place, reference) ∈ cited root ↔ Refers root place reference) ∧
      ((cited root).map Prod.fst).Nodup ∧
      (((cited root).map Prod.fst).Pairwise (· < ·) ↔ InOrder root) :=
  ⟨map_snd_cited root, fun _ _ => mem_cited_iff, nodup_cited root, pairwise_cited_lt_iff⟩

/-- A service description with an embedded schema in front of its import. -/
def importBehindTypes : String :=
  "<w:definitions xmlns:w='" ++ wsdlUri ++ "' xmlns:s='" ++ schemaUri ++ "'><w:types>"
    ++ "<s:schema><s:import schemaLocation='a'/></s:schema></w:types><w:import location='b'/>"
    ++ "</w:definitions>"

/-- **An import behind the types is listed in front of what they refer to**, which is not in
document order. -/
theorem import_behind_types_listed_first :
    ∃ root, Xml.Element.parse false importBehindTypes = .ok root ∧
      (ofRoot root).map DocumentReference.location = ["b", "a"] ∧
      ¬ ((cited root).map Prod.fst).Pairwise (· < ·) := by
  have hlisted : (Xml.Element.parse false importBehindTypes).toOption.map (fun root =>
      ((ofRoot root).map DocumentReference.location, (cited root).map Prod.fst))
        = some (["b", "a"], [[1], [0, 0, 0]]) := by
    decide +kernel
  obtain ⟨root, hroot, heq⟩ := Option.map_eq_some_iff.1 hlisted
  obtain ⟨hlocations, hplaces⟩ := Prod.mk.inj heq
  refine ⟨root, ?_, hlocations, ?_⟩
  · cases hparse : Xml.Element.parse false importBehindTypes with
    | ok found => rw [hparse] at hroot; exact congrArg _ (Option.some.inj hroot)
    | error cause => rw [hparse] at hroot; cases hroot
  · rw [hplaces]
    decide

end DocumentReference

end WsdlTypes
