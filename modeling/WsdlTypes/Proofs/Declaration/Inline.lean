import WsdlTypes.Proofs.Declaration.Lines
import WsdlTypes.Proofs.Walk.Value
/-!
# Types declared in place

A global element may declare its type in place instead of naming one. Its descriptor is then that
of a type with the element's name and the same body (`describeElement_of_declaresInPlace`), but
for one kind of body: a derivation that stands directly in a complex type, or in a simple type
there, is found from the type and not from the element, which is one level above it. Such an
element keeps the attributes and loses the value.
-/

namespace WsdlTypes

namespace Xml

/-- The elements at any depth are those one level below, each followed by what is below it. -/
theorem Content.all_eq_flatMap (c : Content) : c.all = c.elements.flatMap Element.all := by
  cases c with
  | nil => rfl
  | text _ rest => exact all_eq_flatMap rest
  | element child rest =>
    simp only [all, elements, List.flatMap_cons, all_eq_flatMap rest]

end Xml

namespace SimpleType

variable {catalog : Catalog} {schema : Schema} {name : String} {e e' : Xml.Element}

theorem property?_congr (h : derivation? e = derivation? e') :
    property? catalog schema name e = property? catalog schema name e' := by
  rw [property?_eq_match, h, ← property?_eq_match]

variable (catalog schema name)

theorem property?_of_derivation?_eq_none (h : derivation? e = none) :
    property? catalog schema name e = pure none := by
  rw [property?_eq_match, h]

theorem exists_property? (h : (derivation? e).isSome = true) :
    ∃ property, (property? catalog schema name e).value = some property := by
  obtain ⟨derivation, hderivation⟩ := Option.isSome_iff_exists.1 h
  rw [property?_eq_match, hderivation]
  exact ⟨_, rfl⟩

end SimpleType

namespace Declaration

variable {config : Config} {catalog : Catalog} {schema : Schema}
variable {tag name : String} {e e' named : Xml.Element}

/-- A global element and a type with the same name, where the element holds nothing but a
declaration of that kind of type with the body of the other. -/
structure DeclaresInPlace (tag : String) (e named : Xml.Element) : Prop where
  isType : tag = "complexType" ∨ tag = "simpleType"
  element : e.hasTag schemaUri "element" = true
  type : named.hasTag schemaUri tag = true
  name : ∃ name, e.attribute? "name" = some name ∧ named.attribute? "name" = some name
  body : ∃ inner, e.elements = [inner] ∧ inner.hasTag schemaUri tag = true ∧
    inner.content = named.content

/-- Whether all that a type has beside attributes is a derivation, directly in it or in a simple
type there. -/
def isBare (e : Xml.Element) : Bool :=
  !isNested e && (e.descendant? schemaUri "simpleContent").isNone
    && (e.descendant? schemaUri "complexContent").isNone
    && (e.inside schemaUri "element").isEmpty && (SimpleType.derivation? e).isSome

@[simp] theorem isBare_unlined : isBare e.unlined = isBare e := by
  simp only [isBare, isNested_unlined, Xml.Element.descendant?_unlined,
    Xml.Element.inside_unlined, SimpleType.derivation?_unlined, Option.isNone_map,
    Option.isSome_map, List.isEmpty_map]

/-! ## What both hold -/

namespace DeclaresInPlace

variable (h : DeclaresInPlace tag e named)

include h

theorem tag_ne_element : "element" ≠ tag := by
  rcases h.isType with rfl | rfl <;> decide

/-- The element holds the declaration and what is in the other one. -/
theorem exists_inner : ∃ inner, inner.hasTag schemaUri tag = true ∧
    e.elements = [inner] ∧ inner.elements = named.elements ∧
    e.content.all = inner :: named.content.all := by
  obtain ⟨inner, hinner, htag, hcontent⟩ := h.body
  refine ⟨inner, htag, hinner, ?_, ?_⟩
  · rw [Xml.Element.elements, Xml.Element.elements, hcontent]
  · rw [Xml.Content.all_eq_flatMap, ← Xml.Element.elements, hinner, List.flatMap_singleton,
      Xml.Element.all_eq, hcontent]

theorem inside_eq {other : String} (hother : tag ≠ other) :
    e.inside schemaUri other = named.inside schemaUri other := by
  obtain ⟨inner, htag, -, -, hall⟩ := h.exists_inner
  have hinner := Xml.Element.not_hasTag_of_ne htag hother
  simp only [Xml.Element.inside, hall, List.filter_cons, hinner, Bool.false_eq_true, if_false]

theorem descendant?_eq {other : String} (helement : "element" ≠ other) (hother : tag ≠ other) :
    e.descendant? schemaUri other = named.descendant? schemaUri other := by
  obtain ⟨inner, htag, -, -, hall⟩ := h.exists_inner
  simp only [Xml.Element.descendant?, Xml.Element.all_eq, hall, List.find?_cons,
    Xml.Element.not_hasTag_of_ne h.element helement, Xml.Element.not_hasTag_of_ne htag hother,
    Xml.Element.not_hasTag_of_ne h.type hother]

/-- There are as many complex types in both: the one in place takes the place of the other. -/
theorem isNested_eq : isNested e = isNested named := by
  obtain ⟨inner, htag, -, -, hall⟩ := h.exists_inner
  have helement := Xml.Element.not_hasTag_of_ne h.element (by decide : "element" ≠ "complexType")
  have hsame : inner.hasTag schemaUri "complexType" = named.hasTag schemaUri "complexType" := by
    by_cases hcomplex : tag = "complexType"
    · rw [← hcomplex, htag, h.type]
    · rw [Xml.Element.not_hasTag_of_ne htag hcomplex,
        Xml.Element.not_hasTag_of_ne h.type hcomplex]
  simp only [isNested, Xml.Element.descendants, Xml.Element.all_eq, hall, List.filter_cons,
    helement, hsame, Bool.false_eq_true, if_false]
  split <;> rfl

/-- In an element with a simple type in place, the derivation is that of the simple type. -/
theorem derivation?_eq_of_simple (hsimple : tag = "simpleType") :
    SimpleType.derivation? e = SimpleType.derivation? named := by
  subst hsimple
  obtain ⟨inner, htag, helements, hinner, -⟩ := h.exists_inner
  have helement := Xml.Element.not_hasTag_of_ne h.element h.tag_ne_element
  have hchild : e.child? schemaUri "simpleType" = some inner := by
    simp only [Xml.Element.child?, helements, List.find?_cons, htag]
  simp only [SimpleType.derivation?, helement, h.type, hchild, Bool.false_eq_true, if_false,
    if_true, Option.getD_some, hinner]

/-- In one with a complex type in place, there is none. -/
theorem derivation?_eq_none_of_complex (hcomplex : tag = "complexType") :
    SimpleType.derivation? e = none := by
  subst hcomplex
  obtain ⟨inner, htag, helements, -, -⟩ := h.exists_inner
  have helement := Xml.Element.not_hasTag_of_ne h.element (by decide : "element" ≠ "simpleType")
  have hchild : e.child? schemaUri "simpleType" = none := by
    simp only [Xml.Element.child?, helements, List.find?_cons, List.find?_nil,
      Xml.Element.not_hasTag_of_ne htag (by decide : "complexType" ≠ "simpleType")]
  have hderivation : SimpleType.derivationTags.any (inner.hasTag schemaUri ·) = false := by
    simp only [SimpleType.derivationTags, List.any_cons, List.any_nil, Bool.or_false,
      Xml.Element.not_hasTag_of_ne htag (by decide : "complexType" ≠ "restriction"),
      Xml.Element.not_hasTag_of_ne htag (by decide : "complexType" ≠ "list"),
      Xml.Element.not_hasTag_of_ne htag (by decide : "complexType" ≠ "union")]
  simp only [SimpleType.derivation?, helement, hchild, Bool.false_eq_true, if_false,
    Option.getD_none, helements, List.find?_cons, hderivation, List.find?_nil]

/-! ## What both are described by -/

variable (config catalog schema)

theorem elements_eq : Member.elements catalog schema e = Member.elements catalog schema named := by
  have hother : tag ≠ "element" := fun heq => h.tag_ne_element heq.symm
  rw [Member.elements, Member.elements, h.inside_eq hother]

theorem attributes_eq :
    Member.attributes catalog schema e = Member.attributes catalog schema named := by
  have hother : tag ≠ "attribute" := by
    rcases h.isType with rfl | rfl <;> decide
  rw [Member.attributes, Member.attributes, h.inside_eq hother]

/-- Where the values of a simple type do not make a difference, nothing does. -/
theorem body_eq
    (hvalue : named.descendant? schemaUri "simpleContent" = none →
      named.descendant? schemaUri "complexContent" = none →
      named.inside schemaUri "element" = [] →
      SimpleType.derivation? e = SimpleType.derivation? named) :
    Declaration.body config catalog schema e = Declaration.body config catalog schema named := by
  have hother : tag ≠ "simpleContent" ∧ tag ≠ "complexContent" := by
    rcases h.isType with rfl | rfl <;> decide
  simp only [Declaration.body, h.descendant?_eq (by decide : "element" ≠ "simpleContent") hother.1,
    h.descendant?_eq (by decide : "element" ≠ "complexContent") hother.2]
  cases hsimple : named.descendant? schemaUri "simpleContent" with
  | some content => rfl
  | none =>
    cases hcomplex : named.descendant? schemaUri "complexContent" with
    | some content => rfl
    | none =>
      have hmembers : plainMembers config catalog schema e
          = plainMembers config catalog schema named := by
        simp only [plainMembers, h.elements_eq]
        cases hinside : named.inside schemaUri "element" with
        | nil =>
          simp only [SimpleType.property?_congr (hvalue hsimple hcomplex hinside)]
        | cons member rest => rw [Member.elements, hinside]; rfl
      simp only [plainBody, hmembers, h.attributes_eq]

omit catalog in
theorem outline_eq : outline config schema e name = outline config schema named name := by
  have hother : tag ≠ "documentation" := by
    rcases h.isType with rfl | rfl <;> decide
  simp only [outline, documentation?,
    h.descendant?_eq (by decide : "element" ≠ "documentation") hother]

/-- **The element is described like the type**, unless the type is bare and complex. -/
theorem describe_eq (name : String) (hline : e.line = named.line)
    (hbare : ¬ (tag = "complexType" ∧ isBare named = true)) :
    describe config catalog schema e name = describe config catalog schema named name := by
  have hreport : schema.report e = schema.report named := by
    funext problem
    rw [Schema.report, Schema.report, hline]
  simp only [describe, reportSelfReferences, h.isNested_eq, h.outline_eq config schema, hreport]
  split
  · rfl
  · rename_i hnested
    rw [h.body_eq config catalog schema fun hsimple hcomplex hinside => ?_]
    rcases h.isType with htag | htag
    · -- A derivation in the type would make it bare.
      rw [h.derivation?_eq_none_of_complex htag, eq_comm, ← Option.not_isSome_iff_eq_none]
      intro hderivation
      refine hbare ⟨htag, ?_⟩
      simp only [isBare, hnested, hsimple, hcomplex, hinside, hderivation, Option.isNone_none,
        List.isEmpty_nil, Bool.not_false, Bool.and_self]
    · exact h.derivation?_eq_of_simple htag

/-- The body of a bare complex type is that of the element with the value in front. -/
theorem value_body_of_isBare (hcomplex : tag = "complexType") (hbare : isBare named = true) :
    ∃ value : Property, value.name = config.valueName ∧
      (Declaration.body config catalog schema named).value
        = { (Declaration.body config catalog schema e).value with
            properties :=
              value :: (Declaration.body config catalog schema e).value.properties } := by
  have hother : tag ≠ "simpleContent" ∧ tag ≠ "complexContent" := by
    rcases h.isType with rfl | rfl <;> decide
  simp only [isBare, Bool.and_eq_true, Option.isNone_iff_eq_none, List.isEmpty_iff] at hbare
  obtain ⟨⟨⟨-, hsimple⟩, hcontent⟩, hinside⟩ := hbare.1
  obtain ⟨value, hvalue⟩ :=
    SimpleType.exists_property? catalog schema config.valueName hbare.2
  have hnovalue := SimpleType.property?_of_derivation?_eq_none catalog schema config.valueName
    (h.derivation?_eq_none_of_complex hcomplex)
  have hnone : Member.elements catalog schema named = pure [] := by
    rw [Member.elements, hinside]
    rfl
  refine ⟨value, SimpleType.name_property? hvalue, ?_⟩
  simp only [Declaration.body, plainBody, plainMembers,
    h.descendant?_eq (by decide : "element" ≠ "simpleContent") hother.1,
    h.descendant?_eq (by decide : "element" ≠ "complexContent") hother.2, hsimple, hcontent,
    h.elements_eq, h.attributes_eq, hnone, hnovalue, hvalue, Report.value_bind,
    Report.value_pure, Option.toList_none, Option.toList_some, List.nil_append,
    List.singleton_append]

/-- **Of a bare complex type the element has all but the value.** -/
theorem describe_of_isBare (name : String) (hcomplex : tag = "complexType")
    (hbare : isBare named = true) :
    ∃ value : Property, value.name = config.valueName ∧
      (describe config catalog schema named name).value
        = { (describe config catalog schema e name).value with
            properties := value :: (describe config catalog schema e name).value.properties } := by
  have hnested : isNested named = false := by
    simp only [isBare, Bool.and_eq_true, Bool.not_eq_true'] at hbare
    exact hbare.1.1.1.1
  obtain ⟨value, hname, hbody⟩ := h.value_body_of_isBare config catalog schema hcomplex hbare
  refine ⟨value, hname, ?_⟩
  simp only [describe, h.isNested_eq, hnested, Bool.false_eq_true, if_false, Report.value_bind,
    Report.value_pure, h.outline_eq config schema, hbody]

/-- The element's own attribute for a type does not count. -/
theorem describeElement_eq (hname : e.attribute? "name" = some name) :
    describeElement config catalog schema e = some <$> describe config catalog schema e name := by
  have hinline : hasInlineType e = true := by
    obtain ⟨inner, htag, helements, -, -⟩ := h.exists_inner
    have hchild : e.child? schemaUri tag = some inner := by
      simp only [Xml.Element.child?, helements, List.find?_cons, htag]
    rcases h.isType with rfl | rfl
    · rw [hasInlineType, hchild, Option.isSome_some, Bool.true_or]
    · rw [hasInlineType, hchild, Option.isSome_some, Bool.or_true]
  simp only [describeElement, hname, hinline, if_true]
  cases e.attribute? "type" <;> rfl

end DeclaresInPlace

/-! ## Elements and types -/

variable (config catalog schema)

/-- **A global element that declares its type in place is described like that type under its own
name**, and what is reported is the same but for the lines. Only where all that a complex type
has beside attributes is the derivation of a simple type, the element lacks the first property,
which is the value. -/
theorem describeElement_of_declaresInPlace (h : DeclaresInPlace tag e.unlined named.unlined) :
    (¬ (tag = "complexType" ∧ isBare named = true) →
        (describeElement config catalog schema e).unlined
          = (describeType config catalog schema named).unlined) ∧
      (tag = "complexType" ∧ isBare named = true →
        ∃ type value, value.name = config.valueName ∧
          (describeElement config catalog schema e).value = some type ∧
          (describeType config catalog schema named).value
            = some { type with properties := value :: type.properties }) := by
  obtain ⟨name, hname, hname'⟩ := h.name
  have helement : (describeElement config catalog schema e).unlined
      = some <$> (describe config catalog schema e.unlined name).unlined := by
    rw [← unlined_describeElement_unlined, h.describeElement_eq config catalog schema hname,
      Report.unlined_map]
  have htype : (describeType config catalog schema named).unlined
      = some <$> (describe config catalog schema named.unlined name).unlined := by
    rw [← unlined_describeType_unlined, describeType, hname', Report.unlined_map]
  have hlines : e.unlined.line = named.unlined.line := by
    rw [Xml.Element.line_unlined, Xml.Element.line_unlined]
  rw [← isBare_unlined]
  refine ⟨fun hother => ?_, fun hboth => ?_⟩
  · rw [helement, htype, h.describe_eq config catalog schema name hlines hother]
  · obtain ⟨hcomplex, hbare⟩ := hboth
    obtain ⟨value, hvalue, hdescribe⟩ :=
      h.describe_of_isBare config catalog schema name hcomplex hbare
    refine ⟨(describe config catalog schema e.unlined name).value, value, hvalue,
      congrArg Report.value helement, ?_⟩
    exact (congrArg Report.value htype).trans (congrArg some hdescribe)

/-- An element of a schema on a line. -/
def tagOn (tag : String) (attributes : List (String × String)) (line : Nat)
    (content : List Xml.Element) : Xml.Element :=
  .mk
    { uri := some schemaUri
      name := tag
      attributes := attributes.map fun (name, value) => ⟨none, name, value⟩
      scope := [("s", schemaUri)]
      line }
    (.ofList (content.map .inr))

/-- An element `T` whose complex type, in place, holds a part. -/
def elementWith (part : Nat → Xml.Element) : Xml.Element :=
  tagOn "element" [("name", "T")] 1 [tagOn "complexType" [] 2 [part 3]]

/-- A complex type `T` that holds the part. -/
def typeWith (part : Nat → Xml.Element) : Xml.Element :=
  tagOn "complexType" [("name", "T")] 1 [part 2]

/-- A sequence of one element. -/
def sequenceOn (line : Nat) : Xml.Element :=
  tagOn "sequence" [] line [tagOn "element" [("name", "a"), ("type", "s:int")] line []]

/-- A restriction of texts. -/
def restrictionOn (line : Nat) : Xml.Element :=
  tagOn "restriction" [("base", "s:string")] line []

/-- A schema in no namespace. -/
def plainSchema : Schema := { document := 0, location := "a", element := default, target := "" }

/-- A sequence is the same in both places, and a restriction is missing in the element. -/
theorem describeElement_of_sequence_and_restriction :
    DeclaresInPlace "complexType" (elementWith sequenceOn).unlined (typeWith sequenceOn).unlined ∧
      (describeElement {} ⟨[], []⟩ plainSchema (elementWith sequenceOn)).unlined
        = (describeType {} ⟨[], []⟩ plainSchema (typeWith sequenceOn)).unlined ∧
      DeclaresInPlace "complexType" (elementWith restrictionOn).unlined
        (typeWith restrictionOn).unlined ∧
      ∃ type value, value.name = "_" ∧
        (describeElement {} ⟨[], []⟩ plainSchema (elementWith restrictionOn)).value = some type ∧
        (describeType {} ⟨[], []⟩ plainSchema (typeWith restrictionOn)).value
          = some { type with properties := value :: type.properties } := by
  have hsequence :
      DeclaresInPlace "complexType" (elementWith sequenceOn).unlined (typeWith sequenceOn).unlined :=
    ⟨Or.inl rfl, rfl, rfl, ⟨"T", rfl, rfl⟩, ⟨_, rfl, rfl, rfl⟩⟩
  have hrestriction : DeclaresInPlace "complexType" (elementWith restrictionOn).unlined
      (typeWith restrictionOn).unlined :=
    ⟨Or.inl rfl, rfl, rfl, ⟨"T", rfl, rfl⟩, ⟨_, rfl, rfl, rfl⟩⟩
  exact ⟨hsequence,
    (describeElement_of_declaresInPlace {} ⟨[], []⟩ plainSchema hsequence).1 (by decide),
    hrestriction,
    (describeElement_of_declaresInPlace {} ⟨[], []⟩ plainSchema hrestriction).2 (by decide)⟩

/-- **The restriction is lost in the element.** The type has a value, and the element with that
type in place has no property. -/
theorem restriction_in_place_is_lost :
    (describeElement {} ⟨[], []⟩ plainSchema (elementWith restrictionOn)).value.map
        TypeDescriptor.properties = some [] ∧
      (describeType {} ⟨[], []⟩ plainSchema (typeWith restrictionOn)).value.map
        TypeDescriptor.properties
          = some [{ name := "_", type := .scalar .string, source := "s:string" }] := by
  decide +kernel

end Declaration

end WsdlTypes
