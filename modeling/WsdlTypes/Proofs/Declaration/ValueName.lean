import WsdlTypes.Proofs.Declaration.Inline
import WsdlTypes.Proofs.Lockstep.Declaration
/-!
# The name of values is only a name

The values of a simple type make one property, and the name that is asked for is put on it and
read by nothing (`property?_named`). So with another name for values the body of a declaration is
the same but for this name (`matches_body_valueName`), as long as none of its elements and
attributes has one of the two names.
-/

namespace WsdlTypes

/-- What is wrong is the same, but for the name of values where a property of this name is named. -/
inductive Problem.SameButValue (value value' : String) : Problem → Problem → Prop where
  | same (problem : Problem) : SameButValue value value' problem problem
  | selfReference (type : String) :
    SameButValue value value' (.selfReference value type) (.selfReference value' type)
  | undeclaredReference (target : ExpandedName) (type : String) :
    SameButValue value value' (.undeclaredReference target value type)
      (.undeclaredReference target value' type)

/-- A name is that of values on both sides, or one and the same and that of values on neither. -/
def CalledAlike (value value' name name' : String) : Prop :=
  name = value ∧ name' = value' ∨ name' = name ∧ name ≠ value ∧ name ≠ value'

/-- Sessions that call values differently differ in the names of properties that are values. -/
def Leeway.valueName (value value' : String) : Leeway where
  called := CalledAlike value value'
  written := Eq
  grouped := Eq
  known := Eq
  reported := Problem.SameButValue value value'
  called_iff := by
    rintro a a' b b' (⟨rfl, rfl⟩ | ⟨rfl, ha, ha'⟩) (⟨rfl, rfl⟩ | ⟨rfl, hb, hb'⟩)
    · exact iff_of_true rfl rfl
    · exact iff_of_false hb.symm hb'.symm
    · exact iff_of_false ha ha'
    · exact Iff.rfl
  grouped_or := @Leeway.or_eq_of_eq
  reported_refl := .same
  reported_selfReference := by
    rintro a a' (⟨rfl, rfl⟩ | ⟨rfl, -⟩) type
    · exact .selfReference type
    · exact .same _
  reported_undeclaredReference := by
    rintro a a' (⟨rfl, rfl⟩ | ⟨rfl, -⟩) target type
    · exact .undeclaredReference target type
    · exact .same _

/-- The property under another name. -/
def Property.named (name : String) (property : Property) : Property := { property with name }

/-! ## Simple types -/

namespace SimpleType

variable {catalog : Catalog} {schema : Schema} {e : Xml.Element} (name name' : String)

theorem ofBase_named {inner inner' : Report (Option Property)}
    (hinner : inner' = Option.map (Property.named name') <$> inner) :
    ofBase schema name' e inner' = Property.named name' <$> ofBase schema name e inner := by
  subst hinner
  unfold ofBase
  cases e.attribute? "base" with
  | some base => simp only [map_bind, map_pure]; rfl
  | none =>
    simp only [map_bind, bind_map_left]
    congr 1
    funext base
    cases base <;> rfl

/-- Facets are put on a property whatever its name. -/
theorem withFacets_named (property : Property) :
    withFacets catalog schema e (property.named name')
      = Property.named name' <$> withFacets catalog schema e property := by
  unfold withFacets Property.named
  cases enumeration e with
  | nil => simp only [map_pure]
  | cons first rest => simp only [map_bind, map_pure]

theorem restricted_named {inner inner' : Report (Option Property)}
    (hinner : inner' = Option.map (Property.named name') <$> inner) :
    restricted catalog schema name' e inner'
      = Property.named name' <$> restricted catalog schema name e inner := by
  simp only [restricted, ofBase_named name name' hinner, bind_map_left, map_bind,
    withFacets_named]

theorem listed_named {inner inner' : Report (Option Property)}
    (hinner : inner' = Option.map (Property.named name') <$> inner) :
    listed schema name' e inner' = Property.named name' <$> listed schema name e inner := by
  subst hinner
  unfold listed
  cases e.attribute? "itemType" with
  | some item => simp only [map_bind, map_pure]; rfl
  | none =>
    simp only [map_bind, bind_map_left]
    congr 1
    funext item
    cases item <;> rfl

/-- **The name of values is put on them and read by nothing.** -/
theorem property?_named :
    property? catalog schema name' e
      = Option.map (Property.named name') <$> property? catalog schema name e := by
  fun_induction SimpleType.property? catalog schema name e with
  | case1 e hnone => rw [property?_eq_match, hnone, map_pure]; rfl
  | case2 e derivation hderivation inner =>
    rename_i ih
    simp only [property?_eq_match (e := e), hderivation]
    split
    · rw [restricted_named name name' ih]
      simp only [Functor.map_map]
      rfl
    · split
      · rw [listed_named name name' ih]
        simp only [Functor.map_map]
        rfl
      · rfl

end SimpleType

/-! ## Bodies -/

namespace Declaration

variable {catalog : Catalog} {schema : Schema} {e content : Xml.Element}
variable {config config' : Config}

/-- The value of a simple content is the same but for its name. -/
theorem contentValue_named (name name' : String) (derivation : Xml.Element) :
    contentValue catalog schema name' derivation
      = Property.named name' <$> contentValue catalog schema name derivation := by
  unfold contentValue
  split
  · exact SimpleType.restricted_named name name' (SimpleType.property?_named name name')
  · exact SimpleType.ofBase_named name name' rfl

theorem name_contentValue (name : String) (derivation : Xml.Element) :
    (contentValue catalog schema name derivation).value.name = name := by
  unfold contentValue
  split
  · exact SimpleType.name_restricted _
  · exact SimpleType.name_ofBase _

/-- A value under one name matches it under the other. -/
theorem matches_named {value value' : String} {property : Property} (h : property.name = value) :
    property.Matches (.valueName value value') (property.named value') where
  name := Or.inl ⟨h, rfl⟩
  type := rfl
  source := rfl
  nullable := rfl
  restrictions := rfl
  enumeration := rfl

/-- Properties that are called otherwise match themselves. -/
theorem matches_properties_self {value value' : String} {l : List Property}
    (h : ∀ property ∈ l, property.name ≠ value ∧ property.name ≠ value') :
    List.Forall₂ (Property.Matches (.valueName value value')) l l :=
  List.forall₂_same.2 fun property hmem =>
    ⟨Or.inr ⟨rfl, h property hmem⟩, rfl, rfl, rfl, rfl, rfl⟩

section

variable (hfree : FreeOfValues config.valueName e) (hfree' : FreeOfValues config'.valueName e)

include hfree hfree' in
theorem matches_elements {holder : Xml.Element} (hholder : holder ∈ e.all) :
    Report.Matches (.valueName config.valueName config'.valueName)
      (List.Forall₂ (Property.Matches (.valueName config.valueName config'.valueName)))
      (Member.elements catalog schema holder) (Member.elements catalog schema holder) :=
  Report.matches_self <| matches_properties_self fun _ hmem =>
    ⟨Member.name_ne_of_mem_elements (hfree.of_mem hholder) hmem,
      Member.name_ne_of_mem_elements (hfree'.of_mem hholder) hmem⟩

include hfree hfree' in
theorem matches_attributes {holder : Xml.Element} (hholder : holder ∈ e.all) :
    Report.Matches (.valueName config.valueName config'.valueName)
      (List.Forall₂ (Property.Matches (.valueName config.valueName config'.valueName)))
      (Member.attributes catalog schema holder) (Member.attributes catalog schema holder) :=
  Report.matches_self <| matches_properties_self fun _ hmem =>
    ⟨Member.name_ne_of_mem_attributes (hfree.of_mem hholder) hmem,
      Member.name_ne_of_mem_attributes (hfree'.of_mem hholder) hmem⟩

include hfree hfree' in
theorem matches_simpleBody (hcontent : content ∈ e.all) :
    Report.Matches (.valueName config.valueName config'.valueName)
      (Body.Matches (.valueName config.valueName config'.valueName))
      (simpleBody config catalog schema content) (simpleBody config' catalog schema content) := by
  unfold simpleBody
  cases hderivation : contentDerivation? content with
  | none => exact Report.matches_pure ⟨rfl, .nil⟩
  | some derivation =>
    have hmem : derivation ∈ e.all := Xml.Element.all_subset_of_mem hcontent
      (Xml.Element.mem_all_of_mem_elements (List.mem_of_find?_eq_some hderivation))
    have hvalue : Report.Matches (.valueName config.valueName config'.valueName)
        (Property.Matches (.valueName config.valueName config'.valueName))
        (contentValue catalog schema config.valueName derivation)
        (contentValue catalog schema config'.valueName derivation) := by
      rw [contentValue_named config.valueName config'.valueName]
      exact Report.matches_map_self (matches_named (name_contentValue _ _))
    refine hvalue.bind fun value value' hvalue => ?_
    refine (matches_attributes hfree hfree' hmem).bind fun attributes attributes' hattributes => ?_
    exact Report.matches_pure ⟨rfl, .cons hvalue hattributes⟩

include hfree hfree' in
theorem matches_complexBody (hcontent : content ∈ e.all) :
    Report.Matches (.valueName config.valueName config'.valueName)
      (Body.Matches (.valueName config.valueName config'.valueName))
      (complexBody catalog schema content) (complexBody catalog schema content) := by
  unfold complexBody
  refine (Report.matches_self (R := Eq) rfl).bind fun parent parent' hparent => ?_
  refine (matches_elements hfree hfree' hcontent).bind fun elements elements' helements => ?_
  refine (matches_attributes hfree hfree' hcontent).bind
    fun attributes attributes' hattributes => ?_
  exact Report.matches_pure ⟨hparent.symm, List.rel_append helements hattributes⟩

include hfree hfree' in
/-- The elements of a plain declaration are the same; the value of its simple type is called by
the name of values. -/
theorem matches_plainMembers :
    Report.Matches (.valueName config.valueName config'.valueName)
      (List.Forall₂ (Property.Matches (.valueName config.valueName config'.valueName)))
      (plainMembers config catalog schema e) (plainMembers config' catalog schema e) := by
  unfold plainMembers
  refine (matches_elements hfree hfree' (Xml.Element.self_mem_all e)).bind
    fun elements elements' helements => ?_
  cases helements with
  | nil =>
    have hvalue : Report.Matches (.valueName config.valueName config'.valueName)
        (Option.Rel (Property.Matches (.valueName config.valueName config'.valueName)))
        (SimpleType.property? catalog schema config.valueName e)
        (SimpleType.property? catalog schema config'.valueName e) := by
      rw [SimpleType.property?_named config.valueName config'.valueName]
      refine Report.matches_map_self ?_
      cases hproperty : (SimpleType.property? catalog schema config.valueName e).value with
      | none => exact .none
      | some property => exact .some (matches_named (SimpleType.name_property? hproperty))
    refine hvalue.bind fun property property' hproperty => Report.matches_pure ?_
    cases hproperty with
    | none => exact .nil
    | some hproperty => exact .cons hproperty .nil
  | cons hfirst hrest => exact Report.matches_pure (.cons hfirst hrest)

include hfree hfree' in
/-- **The body of a declaration is the same but for the name of values.** -/
theorem matches_body_valueName :
    Report.Matches (.valueName config.valueName config'.valueName)
      (Body.Matches (.valueName config.valueName config'.valueName))
      (body config catalog schema e) (body config' catalog schema e) := by
  unfold body
  split
  · rename_i content hcontent
    exact matches_simpleBody hfree hfree' (List.mem_of_find?_eq_some hcontent)
  · split
    · rename_i content hcontent
      exact matches_complexBody hfree hfree' (List.mem_of_find?_eq_some hcontent)
    · unfold plainBody
      refine (matches_plainMembers hfree hfree').bind fun members members' hmembers => ?_
      refine (matches_attributes hfree hfree' (Xml.Element.self_mem_all e)).bind
        fun attributes attributes' hattributes => ?_
      exact Report.matches_pure ⟨rfl, List.rel_append hmembers hattributes⟩

end

end Declaration

end WsdlTypes
