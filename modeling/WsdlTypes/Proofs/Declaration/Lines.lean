import WsdlTypes.Proofs.Declaration.Abridged
/-!
# Lines say where, not what

Of the lines that elements stand on nothing is read but where a finding is: to leave them out is
an abridgement (`Abridgement.lines`) that keeps the documentation, too. So a declaration whose
lines are gone has the same descriptor, and what is reported of it is the same but for the lines
(`unlined_describeElement_unlined`, `unlined_describeType_unlined`).
-/

namespace WsdlTypes

open Xml.Element (unlined)

variable (config : Config) (catalog : Catalog) (schema : Schema) (e : Xml.Element) (name : String)

theorem SimpleType.facets_unlined : facets e.unlined = facets e := by
  simp only [facets, Xml.Element.elements_unlined, List.filterMap_map, Function.comp_def,
    Xml.Element.start_unlined, Xml.Element.attribute?_unlined, Xml.Element.name_unlined]

/-- Elements without their lines. -/
def Abridgement.lines : Abridgement where
  abridge := unlined
  covers _ := True
  covers_of_hasTag _ _ := trivial
  start e := by rw [Xml.Element.start_unlined]
  sought e := by
    rw [Xml.Element.content_unlined, Xml.Content.all_unlined, List.filter_map]
    congr 2
    funext x
    simp only [Function.comp_apply, Xml.Element.isSought, Xml.Element.hasTag_unlined,
      Xml.Element.attribute?_unlined]
  parts {e} _ := by
    rw [Xml.Element.elements_unlined, List.filter_map]
    congr 2
    funext x
    simp only [Function.comp_apply, Xml.Element.isPartOf, Xml.Element.hasTag_unlined]
  facets _ _ := SimpleType.facets_unlined _

theorem SimpleType.derivation?_unlined : derivation? e.unlined = (derivation? e).map unlined :=
  Abridgement.lines.derivation?_abridge trivial

namespace Declaration

theorem isNested_unlined : isNested e.unlined = isNested e := Abridgement.lines.isNested_abridge

theorem documentation?_unlined : documentation? e.unlined = documentation? e := by
  simp only [documentation?, Xml.Element.descendant?_unlined]
  cases e.descendant? schemaUri "documentation" with
  | none => rfl
  | some found => simp only [Option.map_some, Option.bind_some, Xml.Element.allText_unlined]

/-! ## The documentation is that of the declaration -/

theorem documented_describe :
    (·.documented (documentation? e)) <$> describe config catalog schema e name
      = describe config catalog schema e name := by
  refine Report.ext ?_ (Report.findings_map ..)
  rw [Report.value_map]
  unfold describe
  split <;> rfl

theorem documented_some_describe :
    Option.map (·.documented (documentation? e)) <$> some <$> describe config catalog schema e name
      = some <$> describe config catalog schema e name :=
  calc
    _ = some <$> (·.documented (documentation? e)) <$> describe config catalog schema e name := by
      simp only [Functor.map_map, Option.map_some]
    _ = _ := by rw [documented_describe]

theorem documented_describeElement :
    Option.map (·.documented (documentation? e)) <$> describeElement config catalog schema e
      = describeElement config catalog schema e := by
  simp only [describeElement]
  split
  · rfl
  · exact documented_some_describe ..
  · split
    · exact documented_some_describe ..
    · rw [map_bind]
      congr 1
      funext meaning
      cases meaning with
      | builtin kind => rfl
      | declared target => dsimp only; split <;> rfl

theorem documented_describeType :
    Option.map (·.documented (documentation? e)) <$> describeType config catalog schema e
      = describeType config catalog schema e := by
  simp only [describeType]
  split
  · rfl
  · exact documented_some_describe ..

/-! ## Nothing depends on lines -/

/-- **The descriptor of a global element does not depend on lines.** -/
theorem unlined_describeElement_unlined :
    (describeElement config catalog schema e.unlined).unlined
      = (describeElement config catalog schema e).unlined := by
  have h := Abridgement.lines.unlined_describeElement (e := e) config (.refl schema)
    (.refl catalog) trivial
  rw [show Abridgement.lines.abridge e = e.unlined from rfl, documentation?_unlined,
    ← Report.unlined_map, documented_describeElement] at h
  exact h

/-- **Nor does that of a type with a name.** -/
theorem unlined_describeType_unlined :
    (describeType config catalog schema e.unlined).unlined
      = (describeType config catalog schema e).unlined := by
  have h := Abridgement.lines.unlined_describeType (e := e) config (.refl schema)
    (.refl catalog) trivial
  rw [show Abridgement.lines.abridge e = e.unlined from rfl, documentation?_unlined,
    ← Report.unlined_map, documented_describeType] at h
  exact h

end Declaration

end WsdlTypes
