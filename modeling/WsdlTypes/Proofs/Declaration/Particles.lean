import WsdlTypes.Proofs.Declaration.Members
import WsdlTypes.Proofs.Xml.Models
/-!
# Properties of particles

The elements of a declaration are searched for at any depth, so what makes its element properties
are the particles and whatever other elements stand in the declaration
(`Declaration.exists_inside_of_mem_members`). Where its content is a model there is one property for
each particle, in order, with those of the attributes behind them
(`Declaration.Modelled.properties_describe`).
-/

namespace WsdlTypes.Declaration

/-- Where the elements and attributes of a declaration are searched for: in its complex content,
if it has one. -/
def holderOf (e : Xml.Element) : Xml.Element :=
  (e.descendant? schemaUri "complexContent").getD e

variable {config : Config} {catalog : Catalog} {schema : Schema} {e : Xml.Element}
variable {type : TypeDescriptor} {m : Origin × Property}

/-- An element property is made by an element inside. -/
theorem exists_inside_of_mem_tag {holder : Xml.Element}
    (h : m ∈ Origin.element.tag (Member.elements catalog schema holder).value) :
    ∃ x ∈ holder.inside schemaUri "element",
      m.2 = (Member.ofElement catalog schema x).value := by
  obtain ⟨x, hx, heq⟩ := List.mem_map.1 (Origin.mem_tag.1 h).2
  exact ⟨x, hx, heq.symm⟩

/-- **The element properties of a declaration are made by the elements in it.** -/
theorem exists_inside_of_mem_members (hm : m ∈ members config catalog schema e)
    (helement : m.1 = .element) :
    ∃ x ∈ (holderOf e).inside schemaUri "element",
      m.2 = (Member.ofElement catalog schema x).value := by
  have hother : ∀ {origin : Origin} {properties : List Property}, origin ≠ .element →
      m ∉ origin.tag properties := fun hne hmem =>
    hne ((Origin.mem_tag.1 hmem).1.symm.trans helement)
  unfold members at hm
  split at hm
  · cases hm
  · unfold bodyMembers at hm
    cases hsimple : e.descendant? schemaUri "simpleContent" with
    | some content =>
      rw [hsimple] at hm
      dsimp only at hm
      unfold simpleMembers at hm
      split at hm
      · cases hm
      · rcases List.mem_cons.1 hm with rfl | hm
        · cases helement
        · exact absurd hm (hother (by decide))
    | none =>
      rw [hsimple] at hm
      cases hcomplex : e.descendant? schemaUri "complexContent" with
      | some content =>
        rw [hcomplex] at hm
        rw [holderOf, hcomplex]
        rcases List.mem_append.1 hm with hm | hm
        · exact exists_inside_of_mem_tag hm
        · exact absurd hm (hother (by decide))
      | none =>
        rw [hcomplex] at hm
        rw [holderOf, hcomplex]
        rcases List.mem_append.1 hm with hm | hm
        · split at hm
          · exact absurd hm (hother (by decide))
          · exact exists_inside_of_mem_tag hm
        · exact absurd hm (hother (by decide))

/-! ## Content models -/

/-- A declaration whose content is a model: all elements in it are particles, and it has neither a
simple content nor a derivation of its own. -/
structure Modelled (e : Xml.Element) : Prop where
  simple : e.descendant? schemaUri "simpleContent" = none
  derivation : SimpleType.derivation? e = none
  particles : (holderOf e).inside schemaUri "element" = (holderOf e).particles

theorem Modelled.bodyMembers_eq (h : Modelled e) : bodyMembers config catalog schema e
    = Origin.element.tag (Member.elements catalog schema (holderOf e)).value
      ++ Origin.attribute.tag (Member.attributes catalog schema (holderOf e)).value := by
  rw [bodyMembers, h.simple, holderOf]
  dsimp only
  cases e.descendant? schemaUri "complexContent" with
  | some content => rfl
  | none =>
    rw [Option.getD_none]
    dsimp only
    rw [plainMembersOf, SimpleType.property?_eq_match, h.derivation]
    cases (Member.elements catalog schema e).value with
    | nil => rfl
    | cons first rest => rfl

variable (config catalog schema)

/-- **A declaration whose content is a model has one property for each particle**, in document
order, and the attributes behind them. -/
theorem Modelled.properties_describe (h : Modelled e) (hone : isNested e = false)
    (name : String) :
    (describe config catalog schema e name).value.properties
      = (holderOf e).particles.map (fun x => (Member.ofElement catalog schema x).value)
        ++ (Member.attributes catalog schema (holderOf e)).value := by
  have hbody : (describe config catalog schema e name).value.properties
      = (body config catalog schema e).value.properties := by
    rw [describe, hone, if_neg Bool.false_ne_true]
    rfl
  rw [hbody, ← map_snd_bodyMembers, h.bodyMembers_eq, List.map_append, Origin.map_snd_tag,
    Origin.map_snd_tag, Member.elements, Report.value_each, h.particles]

/-- **A declaration with complex types inside its complex type is rejected**: it has neither
parent nor properties, and that is the one thing reported. -/
theorem describe_of_isNested (hnested : isNested e = true) (name : String) :
    (describe config catalog schema e name).value.parent = none ∧
      (describe config catalog schema e name).value.properties = [] ∧
      (describe config catalog schema e name).findings
        = [{ problem := .nestedComplexType name, file := schema.location, line := e.line }] := by
  rw [describe, hnested, if_pos rfl]
  exact ⟨rfl, rfl, rfl⟩

end WsdlTypes.Declaration
