import WsdlTypes.Proofs.Bases
import WsdlTypes.Proofs.Stages
import WsdlTypes.Proofs.Walk.Value
/-!
# Attributes behind a value

A simple content makes the value of a type and, behind it, a property for each attribute in its
derivation that is not prohibited and can be told (`Member.Known`): one that is declared in place,
or refers to a global attribute, or to one of the prefix `xml`. Every other one is reported and
makes none. Which of the three becomes of an attribute is told one by one, in document order
(`Member.Accounted`), and a declaration with simple content has these properties and these reports
alone (`Declaration.simple_describe`).
-/

namespace WsdlTypes

/-- Whether a problem is that an attribute cannot be found. -/
def Problem.isLostAttribute : Problem → Bool
  | unresolvedAttribute _ => true
  | _ => false

namespace Report

variable {α β : Type}

/-- What a report says of attributes that cannot be found. -/
def lost (r : Report α) : List Finding :=
  r.findings.filter fun finding => finding.problem.isLostAttribute

theorem lost_bind (r : Report α) (f : α → Report β) :
    (r >>= f).lost = r.lost ++ (f r.value).lost := by
  rw [lost, findings_bind, List.filter_append]
  rfl

theorem lost_map (f : α → β) (r : Report α) : (f <$> r).lost = r.lost := by
  rw [lost, findings_map]
  rfl

theorem lost_pure (a : α) : (pure a : Report α).lost = [] := rfl

theorem lost_eq_nil {P : Problem → Prop} {r : Report α} (h : r.About P)
    (hother : ∀ problem, P problem → problem.isLostAttribute = false) : r.lost = [] := by
  rw [lost, List.filter_eq_nil_iff]
  intro finding hmem
  rw [hother _ (h finding hmem)]
  exact Bool.false_ne_true

theorem OfValue.lost_eq_nil {r : Report α} (h : r.OfValue) : r.lost = [] :=
  Report.lost_eq_nil h fun problem hproblem => by
    cases problem <;> simp [Problem.ofValue] at hproblem <;> rfl

end Report

namespace Member

/-- An attribute can be told: it is declared in place, or refers to a global attribute that is
declared, or to one of the namespace of the prefix `xml`. -/
inductive Known (declared : ExpandedName → Prop) (schema : Schema) (e : Xml.Element) : Prop where
  | inPlace (href : e.attribute? "ref" = none)
  | global {reference : String} (href : e.attribute? "ref" = some reference)
      (h : declared (QName.meaning e.scope schema.target reference))
  | xml {reference : String} (href : e.attribute? "ref" = some reference)
      (h : (QName.meaning e.scope schema.target reference).uri = Xml.xmlUri)

/-- What becomes of attributes, in order: a prohibited one is passed over, one that can be told
makes a property of its name, and every other one is reported. -/
inductive Accounted (declared : ExpandedName → Prop) (schema : Schema) :
    List Xml.Element → List Property → List Finding → Prop where
  | nil : Accounted declared schema [] [] []
  | prohibited {e : Xml.Element} {es : List Xml.Element} {properties : List Property}
      {reports : List Finding} (huse : e.attribute? "use" = some "prohibited")
      (hrest : Accounted declared schema es properties reports) :
      Accounted declared schema (e :: es) properties reports
  | known {e : Xml.Element} {es : List Xml.Element} {property : Property}
      {properties : List Property} {reports : List Finding}
      (huse : e.attribute? "use" ≠ some "prohibited") (hknown : Known declared schema e)
      (hname : property.name = nameOf e)
      (hrest : Accounted declared schema es properties reports) :
      Accounted declared schema (e :: es) (property :: properties) reports
  | lost {e : Xml.Element} {es : List Xml.Element} {properties : List Property}
      {reports : List Finding} {reference : String}
      (huse : e.attribute? "use" ≠ some "prohibited") (hlost : ¬ Known declared schema e)
      (href : e.attribute? "ref" = some reference)
      (hrest : Accounted declared schema es properties reports) :
      Accounted declared schema (e :: es) properties
        (⟨.unresolvedAttribute reference, schema.location, e.line⟩ :: reports)

variable {declared declared' : ExpandedName → Prop} {catalog : Catalog} {schema : Schema}
variable {e : Xml.Element}

theorem Known.congr (h : ∀ key, declared key ↔ declared' key) :
    Known declared schema e ↔ Known declared' schema e := by
  constructor
  · rintro (href | ⟨href, hkey⟩ | ⟨href, hkey⟩)
    · exact .inPlace href
    · exact .global href ((h _).1 hkey)
    · exact .xml href hkey
  · rintro (href | ⟨href, hkey⟩ | ⟨href, hkey⟩)
    · exact .inPlace href
    · exact .global href ((h _).2 hkey)
    · exact .xml href hkey

theorem Accounted.congr (h : ∀ key, declared key ↔ declared' key) {es : List Xml.Element}
    {properties : List Property} {reports : List Finding}
    (haccounted : Accounted declared schema es properties reports) :
    Accounted declared' schema es properties reports := by
  induction haccounted with
  | nil => exact .nil
  | prohibited huse _ ih => exact .prohibited huse ih
  | known huse hknown hname _ ih => exact .known huse ((Known.congr h).1 hknown) hname ih
  | lost huse hlost href _ ih =>
    exact .lost huse (fun hknown => hlost ((Known.congr h).2 hknown)) href ih

/-! ## One attribute -/

/-- An attribute that can be told makes a property, and is not reported. -/
theorem ofAttribute_of_known (h : Known (· ∈ catalog.keys "attribute") schema e) :
    ∃ property, (ofAttribute catalog schema e).value = some property ∧
      (ofAttribute catalog schema e).lost = [] := by
  have hreference : ∀ {reference}, e.attribute? "ref" = some reference →
      (QName.meaning e.scope schema.target reference ∈ catalog.keys "attribute" ∨
        (QName.meaning e.scope schema.target reference).uri = Xml.xmlUri) →
      ∃ property, (ofAttribute catalog schema e).value = some property ∧
        (ofAttribute catalog schema e).lost = [] := by
    intro reference href hkey
    simp only [ofAttribute, href, ofAttributeReference, Report.value_bind, Report.lost_bind,
      Schema.value_expand, (schema.about_expand e reference).lost_eq_nil, List.nil_append]
    cases hfound : catalog.declaration? "attribute"
        (QName.meaning e.scope schema.target reference) with
    | some found =>
      exact ⟨_, rfl, (Report.lost_map _ _).trans (about_ofDeclaration _ _ _).lost_eq_nil⟩
    | none =>
      have huri := hkey.resolve_left (Catalog.declaration?_eq_none_iff.1 hfound)
      simp only [if_pos huri]
      exact ⟨_, rfl, rfl⟩
  cases h with
  | inPlace href =>
    simp only [ofAttribute, href]
    exact ⟨_, rfl, (Report.lost_map _ _).trans (about_ofDeclaration _ _ _).lost_eq_nil⟩
  | global href hkey => exact hreference href (Or.inl hkey)
  | xml href huri => exact hreference href (Or.inr huri)

/-- Every other one refers to something, makes no property, and is reported once. -/
theorem ofAttribute_of_not_known (h : ¬ Known (· ∈ catalog.keys "attribute") schema e) :
    ∃ reference, e.attribute? "ref" = some reference ∧
      (ofAttribute catalog schema e).value = none ∧
      (ofAttribute catalog schema e).lost
        = [⟨.unresolvedAttribute reference, schema.location, e.line⟩] := by
  cases href : e.attribute? "ref" with
  | none => exact absurd (.inPlace href) h
  | some reference =>
    have hnone := Catalog.declaration?_eq_none_iff.2 fun hkey => h (.global href hkey)
    have huri : ¬ (QName.meaning e.scope schema.target reference).uri = Xml.xmlUri :=
      fun huri => h (.xml href huri)
    refine ⟨reference, rfl, ?_⟩
    simp only [ofAttribute, href, ofAttributeReference, Report.value_bind, Report.lost_bind,
      Schema.value_expand, (schema.about_expand e reference).lost_eq_nil, List.nil_append, hnone,
      if_neg huri, Report.value_pure, Report.lost_pure, List.append_nil]
    exact ⟨trivial, rfl⟩

/-! ## All of them -/

/-- **The attributes inside an element** make these properties and these reports. -/
theorem accounted_attributes (catalog : Catalog) (schema : Schema) (holder : Xml.Element) :
    Accounted (· ∈ catalog.keys "attribute") schema (holder.inside schemaUri "attribute")
      (attributes catalog schema holder).value (attributes catalog schema holder).lost := by
  rw [attributes, Report.value_map, Report.value_each, Report.lost_map, Report.lost,
    Report.findings_each]
  induction holder.inside schemaUri "attribute" with
  | nil => exact .nil
  | cons e rest ih =>
    by_cases huse : e.attribute? "use" = some "prohibited"
    · rw [List.filter_cons_of_neg (by simp [huse])]
      exact .prohibited huse ih
    · rw [List.filter_cons_of_pos (by simpa using huse), List.map_cons, List.flatMap_cons,
        List.filter_append]
      by_cases hknown : Known (· ∈ catalog.keys "attribute") schema e
      · obtain ⟨property, hvalue, hlost⟩ := ofAttribute_of_known hknown
        rw [Report.lost] at hlost
        rw [hvalue, hlost, List.reduceOption_cons_of_some, List.nil_append]
        exact .known huse hknown (name_ofAttribute hvalue) ih
      · obtain ⟨reference, href, hvalue, hlost⟩ := ofAttribute_of_not_known hknown
        rw [Report.lost] at hlost
        rw [hvalue, hlost, List.reduceOption_cons_of_none, List.singleton_append]
        exact .lost huse hknown href ih

end Member

namespace Declaration

variable {config : Config} {catalog : Catalog} {schema : Schema}
variable {e content derivation : Xml.Element}

theorem lost_reportSelfReferences (type : TypeDescriptor) :
    (reportSelfReferences schema e type).lost = [] := by
  refine Report.lost_eq_nil (P := fun problem => problem.isLostAttribute = false) ?_ fun _ h => h
  exact (Report.about_each fun _ _ => schema.about_report e (by rfl)).bind fun _ =>
    Report.about_pure _

/-- **A declaration with simple content** has no parent; it has the value, and behind it the
properties of the attributes in the derivation. -/
theorem simple_describe (config : Config) (catalog : Catalog) (schema : Schema)
    (hone : (e.descendants schemaUri "complexType").length ≤ 1)
    (hcontent : e.descendant? schemaUri "simpleContent" = some content)
    (hderivation : contentDerivation? content = some derivation) (name : String) :
    (describe config catalog schema e name).value.parent = none ∧
      ∃ value, value.name = config.valueName ∧
        (describe config catalog schema e name).value.properties
          = value :: (Member.attributes catalog schema derivation).value ∧
        (describe config catalog schema e name).lost
          = (Member.attributes catalog schema derivation).lost := by
  have hnested : isNested e = false := decide_eq_false (Nat.not_lt.2 hone)
  have hvalue : (contentValue catalog schema config.valueName derivation).value.name
      = config.valueName := by
    unfold contentValue
    split
    · exact SimpleType.name_restricted _
    · exact SimpleType.name_ofBase _
  have hbody : body config catalog schema e = simpleBody config catalog schema content := by
    rw [body, hcontent]
  rw [describe, hnested, if_neg Bool.false_ne_true, hbody]
  simp only [simpleBody, hderivation, Report.value_bind, Report.value_pure, Report.lost_bind,
    Report.lost_pure, lost_reportSelfReferences, List.append_nil,
    (about_contentValue catalog schema derivation config.valueName).lost_eq_nil, List.nil_append]
  exact ⟨trivial, _, hvalue, rfl, trivial⟩

end Declaration

end WsdlTypes
