import WsdlTypes.Proofs.Walk.Value
/-!
# Where properties come from

The properties of a declaration come from elements, from attributes, or from the one value of a
simple type or of simple content. With this told for each of them (`Declaration.members`) the
properties are those of the descriptor, in order (`Declaration.map_snd_members`). Where no element
and no attribute is called like values they are a value and attributes, or elements and attributes
(`Declaration.shape_members`): what is called like values is the value alone
(`Declaration.Shape.name_eq_iff`), and it comes first, with nothing but attributes behind it
(`Declaration.Shape.eq_cons_of_value`).
-/

namespace WsdlTypes

/-- What a property comes from. -/
inductive Origin where
  /-- The value of a simple type or of simple content. -/
  | value
  | element
  | attribute
deriving DecidableEq, Repr

/-- Properties that come from the same. -/
def Origin.tag (origin : Origin) (properties : List Property) : List (Origin × Property) :=
  properties.map (origin, ·)

theorem Origin.map_snd_tag (origin : Origin) (properties : List Property) :
    (origin.tag properties).map Prod.snd = properties := by
  rw [tag, List.map_map]
  exact List.map_id properties

theorem Origin.mem_tag {origin : Origin} {properties : List Property} {m : Origin × Property} :
    m ∈ origin.tag properties ↔ m.1 = origin ∧ m.2 ∈ properties := by
  rw [tag, List.mem_map]
  constructor
  · rintro ⟨property, hmem, rfl⟩
    exact ⟨rfl, hmem⟩
  · rintro ⟨rfl, hmem⟩
    exact ⟨m.2, hmem, rfl⟩

namespace Declaration

section

variable (config : Config) (catalog : Catalog) (schema : Schema)

/-- The properties of a simple content. -/
def simpleMembers (content : Xml.Element) : List (Origin × Property) :=
  match contentDerivation? content with
  | none => []
  | some derivation =>
    (.value, (contentValue catalog schema config.valueName derivation).value)
      :: Origin.attribute.tag (Member.attributes catalog schema derivation).value

/-- The properties of a complex content. -/
def complexMembers (content : Xml.Element) : List (Origin × Property) :=
  Origin.element.tag (Member.elements catalog schema content).value
    ++ Origin.attribute.tag (Member.attributes catalog schema content).value

/-- The properties of a plain declaration. -/
def plainMembersOf (e : Xml.Element) : List (Origin × Property) :=
  (match (Member.elements catalog schema e).value with
    | [] => Origin.value.tag (SimpleType.property? catalog schema config.valueName e).value.toList
    | elements => Origin.element.tag elements)
    ++ Origin.attribute.tag (Member.attributes catalog schema e).value

/-- The properties of the body of a declaration. -/
def bodyMembers (e : Xml.Element) : List (Origin × Property) :=
  match e.descendant? schemaUri "simpleContent" with
  | some content => simpleMembers config catalog schema content
  | none =>
    match e.descendant? schemaUri "complexContent" with
    | some content => complexMembers catalog schema content
    | none => plainMembersOf config catalog schema e

/-- The properties of a declaration, each with what it comes from. -/
def members (e : Xml.Element) : List (Origin × Property) :=
  if isAlias e || isNested e then [] else bodyMembers config catalog schema e

end

variable {config : Config} {catalog : Catalog} {schema : Schema} {e content : Xml.Element}
variable {type : TypeDescriptor} {m : Origin × Property}

theorem mem_all_of_contentDerivation? {derivation : Xml.Element}
    (h : contentDerivation? content = some derivation) : derivation ∈ content.all :=
  Xml.Element.mem_all_of_mem_elements (List.mem_of_find?_eq_some h)

/-! ## They are the properties of the descriptor -/

theorem map_snd_simpleMembers : (simpleMembers config catalog schema content).map Prod.snd
    = (simpleBody config catalog schema content).value.properties := by
  unfold simpleMembers simpleBody
  cases contentDerivation? content with
  | none => rfl
  | some derivation =>
    simp only [List.map_cons, Origin.map_snd_tag]
    rfl

theorem map_snd_complexMembers : (complexMembers catalog schema content).map Prod.snd
    = (complexBody catalog schema content).value.properties := by
  rw [complexMembers, List.map_append, Origin.map_snd_tag, Origin.map_snd_tag]
  rfl

theorem map_snd_plainMembersOf : (plainMembersOf config catalog schema e).map Prod.snd
    = (plainBody config catalog schema e).value.properties := by
  rw [plainMembersOf, List.map_append, Origin.map_snd_tag]
  simp only [plainBody, plainMembers, Report.value_bind, Report.value_pure]
  cases (Member.elements catalog schema e).value with
  | nil => rw [Origin.map_snd_tag]; rfl
  | cons first rest => rw [Origin.map_snd_tag]; rfl

theorem map_snd_bodyMembers : (bodyMembers config catalog schema e).map Prod.snd
    = (body config catalog schema e).value.properties := by
  unfold bodyMembers body
  cases e.descendant? schemaUri "simpleContent" with
  | some content => exact map_snd_simpleMembers
  | none =>
    cases e.descendant? schemaUri "complexContent" with
    | some content => exact map_snd_complexMembers
    | none => exact map_snd_plainMembersOf

/-- **The members of a declaration are the properties of its descriptor**, in order. -/
theorem map_snd_members (h : (describeAny config catalog schema e).value = some type) :
    (members config catalog schema e).map Prod.snd = type.properties := by
  unfold members
  rcases describeAny_cases h with ⟨halias, name, target, rfl⟩ | ⟨halias, name, rfl⟩
  · rw [halias]
    rfl
  · rw [halias, Bool.false_or]
    unfold describe
    split
    · rfl
    · exact map_snd_bodyMembers

/-! ## What they are called, and how they are ordered -/

/-- The members of a declaration are a value with attributes behind it, or elements with attributes
behind them, and nothing but the value is called like values. -/
inductive Shape (valueName : String) : List (Origin × Property) → Prop where
  | simple {value : Property} {attributes : List Property} (hname : value.name = valueName)
      (hother : ∀ property ∈ attributes, property.name ≠ valueName) :
      Shape valueName ((.value, value) :: Origin.attribute.tag attributes)
  | complex {elements attributes : List Property}
      (helements : ∀ property ∈ elements, property.name ≠ valueName)
      (hattributes : ∀ property ∈ attributes, property.name ≠ valueName) :
      Shape valueName (Origin.element.tag elements ++ Origin.attribute.tag attributes)

theorem Shape.attributes {valueName : String} {attributes : List Property}
    (h : ∀ property ∈ attributes, property.name ≠ valueName) :
    Shape valueName (Origin.attribute.tag attributes) := by
  have hnone : Shape valueName (Origin.element.tag [] ++ Origin.attribute.tag attributes) :=
    .complex (fun _ hmem => absurd hmem List.not_mem_nil) h
  exact hnone

theorem Shape.nil (valueName : String) : Shape valueName [] :=
  Shape.attributes fun _ h => absurd h List.not_mem_nil

variable {valueName : String} {ms : List (Origin × Property)}

/-- What is called like values is the value. -/
theorem Shape.name_eq_iff (h : Shape valueName ms) (hm : m ∈ ms) :
    m.2.name = valueName ↔ m.1 = .value := by
  have hother : ∀ {origin : Origin} {properties : List Property}, origin ≠ .value →
      (∀ property ∈ properties, property.name ≠ valueName) → m ∈ origin.tag properties →
      (m.2.name = valueName ↔ m.1 = .value) := fun horigin hnames hmem => by
    obtain ⟨horigin', hproperty⟩ := Origin.mem_tag.1 hmem
    exact iff_of_false (hnames _ hproperty) (horigin' ▸ horigin)
  cases h with
  | simple hname hattributes =>
    rcases List.mem_cons.1 hm with rfl | hm
    · exact iff_of_true hname rfl
    · exact hother (by decide) hattributes hm
  | complex helements hattributes =>
    rcases List.mem_append.1 hm with hm | hm
    · exact hother (by decide) helements hm
    · exact hother (by decide) hattributes hm

/-- A value comes first, and behind it there are attributes alone. -/
theorem Shape.eq_cons_of_value (h : Shape valueName ms) (hm : m ∈ ms) (hvalue : m.1 = .value) :
    ∃ rest, ms = m :: rest ∧ ∀ other ∈ rest, other.1 = .attribute := by
  have hnot : ∀ {origin : Origin} {properties : List Property}, m ∈ origin.tag properties →
      origin = .value := fun hmem => (Origin.mem_tag.1 hmem).1.symm.trans hvalue
  cases h with
  | simple hname hattributes =>
    rcases List.mem_cons.1 hm with rfl | hm
    · exact ⟨_, rfl, fun other hother => (Origin.mem_tag.1 hother).1⟩
    · cases hnot hm
  | complex helements hattributes =>
    rcases List.mem_append.1 hm with hm | hm
    · cases hnot hm
    · cases hnot hm

theorem shape_simpleMembers (h : FreeOfValues config.valueName content) :
    Shape config.valueName (simpleMembers config catalog schema content) := by
  unfold simpleMembers
  cases hderivation : contentDerivation? content with
  | none => exact Shape.nil _
  | some derivation =>
    refine Shape.simple ?_ fun property hproperty =>
      Member.name_ne_of_mem_attributes (h.of_mem (mem_all_of_contentDerivation? hderivation))
        hproperty
    unfold contentValue
    split
    · exact SimpleType.name_restricted _
    · exact SimpleType.name_ofBase _

theorem shape_complexMembers (h : FreeOfValues config.valueName content) :
    Shape config.valueName (complexMembers catalog schema content) :=
  .complex (fun _ hmem => Member.name_ne_of_mem_elements h hmem)
    fun _ hmem => Member.name_ne_of_mem_attributes h hmem

theorem shape_plainMembersOf (h : FreeOfValues config.valueName e) :
    Shape config.valueName (plainMembersOf config catalog schema e) := by
  have hattributes : ∀ property ∈ (Member.attributes catalog schema e).value,
      property.name ≠ config.valueName := fun _ hmem => Member.name_ne_of_mem_attributes h hmem
  unfold plainMembersOf
  cases helements : (Member.elements catalog schema e).value with
  | cons first rest =>
    refine .complex (fun property hmem => ?_) hattributes
    exact Member.name_ne_of_mem_elements h (helements ▸ hmem)
  | nil =>
    cases hvalue : (SimpleType.property? catalog schema config.valueName e).value with
    | none => exact .attributes hattributes
    | some value => exact .simple (SimpleType.name_property? hvalue) hattributes

/-- **The members of a declaration**, where no element and no attribute is called like values:
a value and attributes, or elements and attributes. -/
theorem shape_members (h : FreeOfValues config.valueName e) :
    Shape config.valueName (members config catalog schema e) := by
  unfold members
  split
  · exact Shape.nil _
  · unfold bodyMembers
    split
    · rename_i content hcontent
      exact shape_simpleMembers (h.of_mem (List.mem_of_find?_eq_some hcontent))
    · split
      · rename_i content hcontent
        exact shape_complexMembers (h.of_mem (List.mem_of_find?_eq_some hcontent))
      · exact shape_plainMembersOf h

end Declaration

end WsdlTypes
