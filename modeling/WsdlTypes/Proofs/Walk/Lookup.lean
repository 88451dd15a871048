import WsdlTypes.Proofs.Walk.Value
/-!
# What is looked up for a declaration

A declaration is described by what is in it and by the declarations that are looked up for it:
those of the elements and attributes that it refers to, and the bases of restrictions that list
values (`Lookup.ofDeclaration`). What is found may make further look-ups
(`Catalog.LooksUp`). Nothing else is read of a catalog: where two catalogs find the same
declarations for all of these, the descriptor is the same, but for where it says that the
declaration stands (`Alike.describeAny_eq`).
-/

namespace WsdlTypes

/-- A look-up of a declaration, by its tag and its name. -/
structure Lookup where
  tag : String
  key : ExpandedName
deriving DecidableEq, Repr

namespace Lookup

/-- The look-up by the name that is the value of an attribute. -/
def byAttribute? (tag name target : String) (e : Xml.Element) : Option Lookup :=
  (e.attribute? name).map fun qname => ⟨tag, QName.meaning e.scope target qname⟩

variable (target : String) (e : Xml.Element)

/-- The bases that restrictions in an element name, built-in types apart. -/
def bases : List Lookup :=
  ((e.descendants schemaUri "restriction").filterMap
    (byAttribute? "simpleType" "base" target)).filter fun lookup => lookup.key.uri ≠ schemaUri

/-- The bases in restrictions that list values. What is listed is of a scalar type, so such a
base is followed to the end. -/
def listedBases : List Lookup :=
  ((e.descendants schemaUri "restriction").filter fun restriction =>
    SimpleType.enumeration restriction ≠ []).flatMap (bases target)

/-- The global elements that elements refer to. -/
def elements : List Lookup :=
  (e.descendants schemaUri "element").filterMap (byAttribute? "element" "ref" target)

/-- The global attributes that attributes refer to, prohibited ones apart. -/
def attributes : List Lookup :=
  ((e.descendants schemaUri "attribute").filter fun member =>
    member.attribute? "use" != some "prohibited").filterMap
      (byAttribute? "attribute" "ref" target)

/-- What an element in a schema of a namespace has looked up. -/
def inside : List Lookup := elements target e ++ attributes target e ++ listedBases target e

/-- What a top-level declaration has looked up; one that is kept for its documentation alone has
nothing. -/
def ofDeclaration : List Lookup := if Declaration.isNested e then [] else inside target e

variable {target e} {part restriction : Xml.Element} {base : String} {key : ExpandedName}

theorem mem_bases (hmem : restriction ∈ e.descendants schemaUri "restriction")
    (hbase : restriction.attribute? "base" = some base)
    (hkey : QName.meaning restriction.scope target base = key) (huri : key.uri ≠ schemaUri) :
    ⟨"simpleType", key⟩ ∈ bases target e :=
  List.mem_filter.2 ⟨List.mem_filterMap.2 ⟨restriction, hmem, by
    rw [byAttribute?, hbase, Option.map_some, hkey]⟩, by simpa using huri⟩

/-- What is named in a part of an element is named in the element. -/
theorem bases_subset (h : part ∈ e.all) : bases target part ⊆ bases target e :=
  List.filter_subset _ (List.filterMap_subset _
    (List.filter_subset _ (Xml.Element.all_subset_of_mem h)))

/-- What a part of an element has looked up, the element has. -/
theorem inside_subset (h : part ∈ e.all) : inside target part ⊆ inside target e := by
  have hall : part.all ⊆ e.all := Xml.Element.all_subset_of_mem h
  have helements : elements target part ⊆ elements target e :=
    List.filterMap_subset _ (List.filter_subset _ hall)
  have hattributes : attributes target part ⊆ attributes target e :=
    List.filterMap_subset _ (List.filter_subset _ (List.filter_subset _ hall))
  have hbases : listedBases target part ⊆ listedBases target e := by
    intro lookup hlookup
    obtain ⟨restriction, hrestriction, hmem⟩ := List.mem_flatMap.1 hlookup
    exact List.mem_flatMap.2
      ⟨restriction, List.filter_subset _ (List.filter_subset _ hall) hrestriction, hmem⟩
  intro lookup hlookup
  simp only [inside, List.mem_append] at hlookup ⊢
  exact hlookup.imp (Or.imp (@helements _) (@hattributes _)) (@hbases _)

theorem mem_inside_of_listed (hmem : restriction ∈ e.descendants schemaUri "restriction")
    (hlisted : SimpleType.enumeration restriction ≠ []) {lookup : Lookup}
    (h : lookup ∈ bases target restriction) : lookup ∈ inside target e :=
  List.mem_append_right _ (List.mem_flatMap.2
    ⟨restriction, List.mem_filter.2 ⟨hmem, by simpa using hlisted⟩, h⟩)

theorem mem_inside_of_element {reference : String} (htag : e.hasTag schemaUri "element" = true)
    (href : e.attribute? "ref" = some reference) :
    ⟨"element", QName.meaning e.scope target reference⟩ ∈ inside target e := by
  refine List.mem_append_left _ (List.mem_append_left _ (List.mem_filterMap.2 ⟨e, ?_, ?_⟩))
  · exact List.mem_filter.2 ⟨Xml.Element.self_mem_all e, htag⟩
  · rw [byAttribute?, href, Option.map_some]

theorem mem_inside_of_attribute {reference : String} (htag : e.hasTag schemaUri "attribute" = true)
    (huse : (e.attribute? "use" != some "prohibited") = true)
    (href : e.attribute? "ref" = some reference) :
    ⟨"attribute", QName.meaning e.scope target reference⟩ ∈ inside target e := by
  refine List.mem_append_left _ (List.mem_append_right _ (List.mem_filterMap.2 ⟨e, ?_, ?_⟩))
  · exact List.mem_filter.2
      ⟨List.mem_filter.2 ⟨Xml.Element.self_mem_all e, htag⟩, huse⟩
  · rw [byAttribute?, href, Option.map_some]

/-- What is looked up next when a declaration was found: the base of a simple type, where it names
one, and what an attribute has looked up. -/
def following (lookup : Lookup) (e : Xml.Element) : List Lookup :=
  if lookup.tag = "simpleType" then
    ((namedBase? e).toList.map fun (restriction, base) =>
      ⟨"simpleType", QName.meaning restriction.scope lookup.key.uri base⟩).filter
        fun next => next.key.uri ≠ schemaUri
  else if lookup.tag = "attribute" then inside lookup.key.uri e
  else []

/-- What is looked up is an element, an attribute or a simple type. -/
def tags : List String := ["element", "attribute", "simpleType"]

theorem tag_of_byAttribute? {tag name : String} {lookup : Lookup}
    (h : byAttribute? tag name target e = some lookup) : lookup.tag = tag := by
  obtain ⟨qname, -, rfl⟩ := Option.map_eq_some_iff.1 h
  rfl

theorem tag_mem_of_mem_inside {lookup : Lookup} (h : lookup ∈ inside target e) :
    lookup.tag ∈ tags := by
  simp only [inside, List.mem_append, elements, attributes, listedBases, bases, List.mem_flatMap,
    List.mem_filter, List.mem_filterMap] at h
  rcases h with (⟨_, -, h⟩ | ⟨_, -, h⟩) | ⟨_, -, ⟨_, -, h⟩, -⟩ <;>
    simp [tag_of_byAttribute? h, tags]

theorem tag_mem_of_mem_following {lookup next : Lookup} (h : next ∈ lookup.following e) :
    next.tag ∈ tags := by
  unfold following at h
  split at h
  · obtain ⟨_, -, rfl⟩ := List.mem_map.1 (List.mem_filter.1 h).1
    simp [tags]
  · split at h
    · exact tag_mem_of_mem_inside h
    · cases h

theorem tag_mem_of_mem_ofDeclaration {lookup : Lookup} (h : lookup ∈ ofDeclaration target e) :
    lookup.tag ∈ tags := by
  unfold ofDeclaration at h
  split at h
  · cases h
  · exact tag_mem_of_mem_inside h

end Lookup

namespace Catalog

variable {catalog catalog' : Catalog} {own : List Lookup}

/-- What a look-up in a catalog is followed by. -/
def following (catalog : Catalog) (lookup : Lookup) : List Lookup :=
  match catalog.declaration? lookup.tag lookup.key with
  | none => []
  | some (_, e) => lookup.following e

/-- What is looked up in a catalog where some look-ups are made: these, and those that follow. -/
inductive LooksUp (catalog : Catalog) (own : List Lookup) : Lookup → Prop where
  | own {lookup : Lookup} (h : lookup ∈ own) : LooksUp catalog own lookup
  | next {lookup next : Lookup} (h : LooksUp catalog own lookup)
      (hnext : next ∈ catalog.following lookup) : LooksUp catalog own next

theorem LooksUp.base {key : ExpandedName} {schema : Schema} {e restriction : Xml.Element}
    {base : String} (h : catalog.LooksUp own ⟨"simpleType", key⟩)
    (hfound : catalog.declaration? "simpleType" key = some (schema, e))
    (hbase : namedBase? e = some (restriction, base))
    (huri : (QName.meaning restriction.scope key.uri base).uri ≠ schemaUri) :
    catalog.LooksUp own ⟨"simpleType", QName.meaning restriction.scope key.uri base⟩ := by
  refine h.next ?_
  simp only [following, hfound, Lookup.following, hbase]
  simpa using huri

theorem LooksUp.global {key : ExpandedName} {schema : Schema} {e : Xml.Element} {lookup : Lookup}
    (h : catalog.LooksUp own ⟨"attribute", key⟩)
    (hfound : catalog.declaration? "attribute" key = some (schema, e))
    (hlookup : lookup ∈ Lookup.inside key.uri e) : catalog.LooksUp own lookup := by
  refine h.next ?_
  simp only [following, hfound, Lookup.following]
  simpa using hlookup

/-- **Nothing else is looked up** than what some look-ups contain that contain their followers. -/
theorem LooksUp.mem_of_closed {all : List Lookup} {lookup : Lookup}
    (h : catalog.LooksUp own lookup) (hown : own ⊆ all)
    (hclosed : ∀ lookup ∈ all, catalog.following lookup ⊆ all) : lookup ∈ all := by
  induction h with
  | own hmem => exact hown hmem
  | next _ hnext ih => exact hclosed _ ih hnext

theorem LooksUp.tag_mem {lookup : Lookup} (h : catalog.LooksUp own lookup)
    (hown : ∀ lookup ∈ own, lookup.tag ∈ Lookup.tags) : lookup.tag ∈ Lookup.tags := by
  cases h with
  | own h => exact hown _ h
  | next _ hnext =>
    unfold following at hnext
    split at hnext
    · cases hnext
    · exact Lookup.tag_mem_of_mem_following hnext

/-- Another catalog finds the same declarations, wherever these may stand, for all that is looked
up in a catalog. -/
def Alike (own : List Lookup) (catalog catalog' : Catalog) : Prop :=
  ∀ lookup, catalog.LooksUp own lookup →
    (catalog'.declaration? lookup.tag lookup.key).map Prod.snd
      = (catalog.declaration? lookup.tag lookup.key).map Prod.snd

/-- What is looked up is in neither catalog, or is one declaration of both. -/
theorem Alike.found (h : Alike own catalog catalog') {tag : String} {key : ExpandedName}
    (hlookup : catalog.LooksUp own ⟨tag, key⟩) :
    (catalog.declaration? tag key = none ∧ catalog'.declaration? tag key = none) ∨
      ∃ schema schema' e, catalog.declaration? tag key = some (schema, e) ∧
        catalog'.declaration? tag key = some (schema', e) ∧
        schema.target = key.uri ∧ schema'.target = key.uri := by
  have hsame := h _ hlookup
  cases hfound : catalog.declaration? tag key with
  | none =>
    rw [hfound, Option.map_none, Option.map_eq_none_iff] at hsame
    exact Or.inl ⟨rfl, hsame⟩
  | some found =>
    obtain ⟨schema, e⟩ := found
    rw [hfound, Option.map_some, Option.map_eq_some_iff] at hsame
    obtain ⟨⟨schema', e'⟩, hfound', rfl⟩ := hsame
    exact Or.inr ⟨schema, schema', e', rfl, hfound', (declaration?_eq_some hfound).2.1,
      (declaration?_eq_some hfound').2.1⟩

theorem Alike.found_of_some (h : Alike own catalog catalog') {tag : String} {key : ExpandedName}
    (hlookup : catalog.LooksUp own ⟨tag, key⟩) {schema : Schema} {e : Xml.Element}
    (hfound : catalog.declaration? tag key = some (schema, e)) :
    ∃ schema', catalog'.declaration? tag key = some (schema', e) ∧
      schema.target = key.uri ∧ schema'.target = key.uri := by
  rcases h.found hlookup with ⟨hnone, -⟩ | ⟨_, schema', _, hsome, hfound', ht, ht'⟩
  · rw [hnone] at hfound
    cases hfound
  · rw [hsome] at hfound
    cases hfound
    exact ⟨schema', hfound', ht, ht'⟩

theorem Alike.builtinElement?_eq (h : Alike own catalog catalog') {key : ExpandedName}
    (hlookup : catalog.LooksUp own ⟨"element", key⟩) :
    catalog'.builtinElement? key = catalog.builtinElement? key := by
  rcases h.found hlookup with ⟨hnone, hnone'⟩ | ⟨schema, schema', e, hfound, hfound', ht, ht'⟩
  · simp only [builtinElement?, hnone, hnone']
  · simp only [builtinElement?, hfound, hfound', Option.bind_eq_bind, Option.bind_some,
      Schema.expand?, ht, ht']

/-- The scalar that a name comes down to, where the declaration is looked up once. -/
theorem value_scalarBase (catalog : Catalog) (visited : List ExpandedName) (key : ExpandedName) :
    (catalog.scalarBase visited key).value =
      if key.uri = schemaUri then some (Scalar.ofBuiltin key.name)
      else if key ∈ visited then none
      else match catalog.declaration? "simpleType" key with
        | none => none
        | some (schema, simpleType) =>
          match namedBase? simpleType with
          | none => some .string
          | some (restriction, base) =>
            (catalog.scalarBase (key :: visited)
              (QName.meaning restriction.scope schema.target base)).value := by
  rw [scalarBase]
  split
  · rfl
  · split
    · rfl
    · split
      · rename_i hnone
        rw [hnone]
        rfl
      · rename_i schema simpleType hfound
        rw [hfound]
        cases hbase : namedBase? simpleType with
        | none => simp only [hbase, Report.value_pure]
        | some found => simp only [hbase, Report.value_bind, Schema.value_expand]

/-- The scalar that simple types come down to is the same. -/
theorem Alike.scalarBase_eq (h : Alike own catalog catalog') {visited : List ExpandedName}
    {key : ExpandedName}
    (hlookup : key.uri ≠ schemaUri → catalog.LooksUp own ⟨"simpleType", key⟩) :
    (catalog'.scalarBase visited key).value = (catalog.scalarBase visited key).value := by
  fun_induction scalarBase catalog visited key with
  | case1 visited key huri => simp [value_scalarBase, huri]
  | case2 visited key huri hold => simp [value_scalarBase, huri, hold]
  | case3 visited key huri hnew hnone =>
    rcases h.found (hlookup huri) with ⟨-, hnone'⟩ | ⟨_, _, _, hfound, -⟩
    · simp [value_scalarBase, huri, hnew, hnone']
    · rw [hnone] at hfound
      cases hfound
  | case4 visited key huri hnew schema simpleType hfound hbase =>
    obtain ⟨schema', hfound', -⟩ := h.found_of_some (hlookup huri) hfound
    simp [value_scalarBase catalog', huri, hnew, hfound', hbase]
  | case5 visited key huri hnew schema simpleType hfound restriction base hbase ih =>
    obtain ⟨schema', hfound', ht, ht'⟩ := h.found_of_some (hlookup huri) hfound
    rw [value_scalarBase catalog', if_neg huri, if_neg hnew, hfound']
    simp only [hbase, ht', Report.value_bind, Schema.value_expand, ht]
    exact ih _ fun hbuiltin => LooksUp.base (hlookup huri) hfound hbase hbuiltin

end Catalog

end WsdlTypes
