import WsdlTypes.Proofs.Names
import WsdlTypes.Proofs.Walk.Types
/-!
# Which declarations make types

Which names a schema adds to the types can be read off its elements, without a look at any other
schema (`DeclaresType`, `exists_declares_iff`). A complex or simple type adds its name. A global
element does unless its type is a built-in one or one of its own name: of the first kind it is
no type of its own, and of the second it would extend itself.
-/

namespace WsdlTypes

/-- A global element makes a type of its name in a namespace: its type is declared in place, or
it has none, or it is another declaration's. -/
def MakesType (target name : String) (e : Xml.Element) : Prop :=
  hasInlineType e = true ∨ e.attribute? "type" = none ∨
    ∃ type, e.attribute? "type" = some type ∧
      (QName.meaning e.scope target type).uri ≠ schemaUri ∧
      QName.meaning e.scope target type ≠ ⟨target, name⟩

/-- A schema of a namespace has a child that makes a type of a name. -/
def DeclaresType (target name : String) (schema : Xml.Element) : Prop :=
  (∃ tag ∈ ["complexType", "simpleType"],
    ∃ e ∈ schema.children schemaUri tag, e.attribute? "name" = some name) ∨
  ∃ e ∈ schema.children schemaUri "element",
    e.attribute? "name" = some name ∧ MakesType target name e

namespace Declaration

variable {config : Config} {catalog : Catalog} {schema : Schema} {e : Xml.Element}

/-- An element has a descriptor if it has a name and makes a type of it. -/
theorem exists_describeElement_iff {key : ExpandedName} :
    (∃ type, (describeElement config catalog schema e).value = some type ∧ type.key = key) ↔
      schema.target = key.uri ∧ e.attribute? "name" = some key.name ∧
        MakesType schema.target key.name e := by
  obtain ⟨uri, local'⟩ := key
  constructor
  · rintro ⟨type, htype, hkey⟩
    obtain ⟨name, hname, hown, -⟩ := key_of_describeElement htype
    rw [hown, ExpandedName.mk.injEq] at hkey
    obtain ⟨rfl, rfl⟩ := hkey
    refine ⟨rfl, hname, ?_⟩
    unfold MakesType
    cases hqname : e.attribute? "type" with
    | none => exact Or.inr (Or.inl rfl)
    | some qname =>
      cases hinline : hasInlineType e with
      | true => exact Or.inl rfl
      | false =>
        refine Or.inr (Or.inr ⟨qname, rfl, ?_⟩)
        simp only [describeElement, hname, hqname, hinline, Bool.false_eq_true, if_false,
          Report.value_bind, Schema.value_typeName, TypeName.ofKey] at htype
        split at htype
        · -- A built-in type has no descriptor.
          simp at htype
        · rename_i htarget
          split at htarget
          · cases htarget
          · rename_i huri
            rw [TypeName.declared.injEq] at htarget
            refine ⟨huri, fun hself => ?_⟩
            rw [← htarget, if_pos hself] at htype
            simp at htype
  · rintro ⟨rfl, hname, hmakes⟩
    cases hqname : e.attribute? "type" with
    | none =>
      simp only [describeElement, hname, hqname, Report.value_map]
      exact ⟨_, rfl, key_describe local'⟩
    | some qname =>
      cases hinline : hasInlineType e with
      | true =>
        simp only [describeElement, hname, hqname, hinline, if_true, Report.value_map]
        exact ⟨_, rfl, key_describe local'⟩
      | false =>
        rcases hmakes with hinline' | hnone | ⟨type, hsome, huri, hother⟩
        · rw [hinline] at hinline'
          cases hinline'
        · rw [hqname] at hnone
          cases hnone
        · obtain rfl : qname = type := Option.some.inj (hqname.symm.trans hsome)
          simp only [describeElement, hname, hqname, hinline, Bool.false_eq_true, if_false,
            Report.value_bind, Schema.value_typeName, TypeName.ofKey, if_neg huri, if_neg hother]
          exact ⟨_, rfl, rfl⟩

theorem exists_describeType_iff {key : ExpandedName} :
    (∃ type, (describeType config catalog schema e).value = some type ∧ type.key = key) ↔
      schema.target = key.uri ∧ e.attribute? "name" = some key.name := by
  constructor
  · rintro ⟨type, htype, rfl⟩
    obtain ⟨name, hname, hown, -⟩ := key_of_describeType htype
    rw [hown]
    exact ⟨rfl, hname⟩
  · rintro ⟨htarget, hname⟩
    simp only [describeType, hname, Report.value_map]
    refine ⟨_, rfl, ?_⟩
    rw [key_describe, htarget]

end Declaration

/-- **The names that a schema adds** are read off its children, whatever the catalog. -/
theorem Walk.exists_declares_iff {config : Config} {catalog : Catalog} {schema : Schema}
    {key : ExpandedName} :
    (∃ e ∈ schema.declarations, Walk.Declares config catalog (schema, e) key) ↔
      schema.target = key.uri ∧ DeclaresType key.uri key.name schema.element := by
  constructor
  · rintro ⟨e, he, hdeclares⟩
    rw [Schema.declarations, List.mem_append, List.mem_append] at he
    rcases he with helement | htype | htype
    · rw [Walk.Declares, Declaration.describeAny_of_element helement,
        Declaration.exists_describeElement_iff] at hdeclares
      obtain ⟨htarget, hname, hmakes⟩ := hdeclares
      exact ⟨htarget, Or.inr ⟨e, helement, hname, htarget ▸ hmakes⟩⟩
    · rw [Walk.Declares, Declaration.describeAny_of_type (by decide) htype,
        Declaration.exists_describeType_iff] at hdeclares
      exact ⟨hdeclares.1, Or.inl ⟨"complexType", by decide, e, htype, hdeclares.2⟩⟩
    · rw [Walk.Declares, Declaration.describeAny_of_type (by decide) htype,
        Declaration.exists_describeType_iff] at hdeclares
      exact ⟨hdeclares.1, Or.inl ⟨"simpleType", by decide, e, htype, hdeclares.2⟩⟩
  · rintro ⟨htarget, ⟨tag, htag, e, he, hname⟩ | ⟨e, he, hname, hmakes⟩⟩
    · have htags : tag = "complexType" ∨ tag = "simpleType" := by simpa using htag
      have hne : tag ≠ "element" := by
        rcases htags with rfl | rfl <;> decide
      refine ⟨e, ?_, ?_⟩
      · rw [Schema.declarations, List.mem_append, List.mem_append]
        rcases htags with rfl | rfl
        · exact Or.inr (Or.inl he)
        · exact Or.inr (Or.inr he)
      · rw [Walk.Declares, Declaration.describeAny_of_type hne he]
        exact Declaration.exists_describeType_iff.2 ⟨htarget, hname⟩
    · refine ⟨e, List.mem_append_left _ he, ?_⟩
      rw [Walk.Declares, Declaration.describeAny_of_element he]
      exact Declaration.exists_describeElement_iff.2 ⟨htarget, hname, htarget ▸ hmakes⟩

end WsdlTypes
