import WsdlTypes.Proofs.Lockstep.Types
/-!
# Declarations in step

Two declarations that say the same of themselves at their top (`Declaration.Alike`) and whose
bodies match are described alike (`matches_describeAny`): what a descriptor says besides its
body is read at the top, and the properties that refer to their own type are the same ones.
-/

namespace WsdlTypes.Declaration

/-- Two bodies with one parent and matching properties. -/
structure Body.Matches (d : Leeway) (body body' : Body) : Prop where
  parent : body'.parent = body.parent
  properties : List.Forall₂ (Property.Matches d) body.properties body'.properties

/-- Two declarations at one place, in schemas of one namespace, that say the same of themselves;
the types that they name mean the same. -/
structure Alike (d : Leeway) (schema schema' : Schema) (e e' : Xml.Element) : Prop where
  target : schema'.target = schema.target
  location : schema'.location = schema.location
  line : e'.line = e.line
  isElement : e'.hasTag schemaUri "element" = e.hasTag schemaUri "element"
  name : e'.attribute? "name" = e.attribute? "name"
  inline : hasInlineType e' = hasInlineType e
  nested : isNested e' = isNested e
  documentation : documentation? e' = documentation? e
  type : Option.Rel (fun written written' =>
      Report.Matches d Eq (schema.typeName e written) (schema'.typeName e' written'))
    (e.attribute? "type") (e'.attribute? "type")

theorem Alike.refl (d : Leeway) (schema : Schema) (e : Xml.Element) :
    Alike d schema schema e e where
  target := rfl
  location := rfl
  line := rfl
  isElement := rfl
  name := rfl
  inline := rfl
  nested := rfl
  documentation := rfl
  type := by
    cases e.attribute? "type" with
    | none => exact .none
    | some written => exact .some (Report.matches_self rfl)

variable {d : Leeway} {config config' : Config} {catalog catalog' : Catalog}
variable {schema schema' : Schema} {e e' : Xml.Element}

/-- The properties that refer to their own type are reported alike. -/
theorem matches_reportSelfReferences (h : Alike d schema schema' e e') {type type' : TypeDescriptor}
    (htype : type.Matches d type') :
    Report.Matches d (fun _ _ => True) (reportSelfReferences schema e type)
      (reportSelfReferences schema' e' type') := by
  have hown : List.Forall₂ (Property.Matches d)
      (type.properties.filter fun property => property.type = .reference type.key)
      (type'.properties.filter fun property => property.type = .reference type'.key) := by
    refine List.rel_filter (fun property property' hproperty => ?_) htype.properties
    simp only [hproperty.type, htype.key]
  have hreport : ∀ property property' : Property, property.Matches d property' →
      Report.Matches d (fun _ _ => True)
        (schema.report e (.selfReference property.name type.name))
        (schema'.report e' (.selfReference property'.name type'.name)) := by
    intro property property' hproperty
    rw [htype.name]
    exact Schema.matches_report h.location h.line (d.reported_selfReference hproperty.name _)
  exact (Report.matches_each (hown.imp hreport)).bind fun _ _ _ => Report.matches_pure trivial

section

variable (h : Alike d schema schema' e e')
variable (hgrouped : ∀ uri, d.grouped (config.naming.package uri) (config'.naming.package uri))

include h hgrouped in
theorem matches_outline (name : String) :
    (outline config schema e name).Matches d (outline config' schema' e' name) where
  key := by simp only [outline, TypeDescriptor.ofKey, h.target]
  location := h.location
  package := by
    simp only [outline, TypeDescriptor.ofKey, h.target]
    exact hgrouped _
  name := rfl
  documentation := h.documentation
  parent := rfl
  properties := .nil

variable (hbody : Report.Matches d (Body.Matches d) (body config catalog schema e)
  (body config' catalog' schema' e'))

include h hgrouped hbody in
theorem matches_describe (name : String) :
    Report.Matches d (TypeDescriptor.Matches d) (describe config catalog schema e name)
      (describe config' catalog' schema' e' name) := by
  have houtline := matches_outline h hgrouped name
  unfold describe
  rw [h.nested]
  split
  · exact (Schema.matches_report h.location h.line (d.reported_refl _)).bind fun _ _ _ =>
      Report.matches_pure houtline
  · refine hbody.bind fun found found' hfound => ?_
    have htype : TypeDescriptor.Matches d
        { outline config schema e name with
          parent := found.parent
          properties := found.properties }
        { outline config' schema' e' name with
          parent := found'.parent
          properties := found'.properties } :=
      { houtline with
        parent := hfound.parent
        properties := hfound.properties }
    exact (matches_reportSelfReferences h htype).bind fun _ _ _ => Report.matches_pure htype

include h hgrouped hbody in
theorem matches_describeElement :
    Report.Matches d (Option.Rel (TypeDescriptor.Matches d))
      (describeElement config catalog schema e) (describeElement config' catalog' schema' e') := by
  have htype := h.type
  unfold describeElement
  rw [h.name]
  cases hname : e.attribute? "name" with
  | none => exact Report.matches_pure .none
  | some name =>
    have hdescribed := (matches_describe h hgrouped hbody name).map
      (S := Option.Rel (TypeDescriptor.Matches d)) fun _ _ hmatches => .some hmatches
    cases hwritten : e.attribute? "type" with
    | none =>
      rw [hwritten] at htype
      cases hwritten' : e'.attribute? "type" with
      | none => exact hdescribed
      | some written' => rw [hwritten'] at htype; cases htype
    | some written =>
      rw [hwritten] at htype
      cases hwritten' : e'.attribute? "type" with
      | none => rw [hwritten'] at htype; cases htype
      | some written' =>
        rw [hwritten'] at htype
        simp only [h.inline]
        split
        · exact hdescribed
        · cases htype with
          | some hmeaning =>
            refine hmeaning.bind fun meaning meaning' heq => ?_
            subst heq
            cases meaning with
            | builtin kind => exact Report.matches_pure .none
            | declared target =>
              simp only [h.target]
              split
              · exact Report.matches_pure .none
              · -- The element extends the type that it names, the same on both sides.
                exact Report.matches_pure (.some { matches_outline h hgrouped name with
                  parent := rfl })

include h hgrouped hbody in
/-- **Declarations that are alike are described alike** where their bodies match. -/
theorem matches_describeAny :
    Declaration.Matches d config config' catalog catalog' (schema, e) (schema', e') where
  location := h.location
  line := h.line
  described := by
    simp only [describeAny, h.isElement]
    split
    · exact matches_describeElement h hgrouped hbody
    · unfold describeType
      rw [h.name]
      cases e.attribute? "name" with
      | none => exact Report.matches_pure .none
      | some name =>
        exact (matches_describe h hgrouped hbody name).map fun _ _ hmatches => .some hmatches

end

end WsdlTypes.Declaration
