import WsdlTypes.Proofs.Lockstep.Report
import WsdlTypes.Proofs.Walk.Types
/-!
# Walks in step

Descriptors match where their properties do, one by one, and the rest of them is the same but
for the package; maps of types match where they have matching types under the same names. A
declaration that is described alike on both sides is entered alike: its name is new on both
sides or on neither, and a merge drops the parent on both sides or on neither
(`matches_dropParent`). So walks over declarations that are described alike keep step
(`matches_documents`).
-/

namespace WsdlTypes

namespace SortedMap

variable {κ ν ω : Type} [LT κ]

/-- The map with a function applied to every value. -/
def mapValues (f : ν → ω) (m : SortedMap κ ν) : SortedMap κ ω :=
  ⟨m.entries.map fun entry => (entry.1, f entry.2), List.pairwise_map.2 m.sorted⟩

@[simp] theorem mapValues_id (m : SortedMap κ ν) : m.mapValues id = m := by
  cases m
  simp [mapValues]

theorem get?_mapValues [DecidableEq κ] (f : ν → ω) (m : SortedMap κ ν) (k : κ) :
    (m.mapValues f).get? k = (m.get? k).map f := by
  simp only [get?, mapValues, List.find?_map, Option.map_map]
  rfl

end SortedMap

/-- Two properties that are the same but for their names and for how their types are written. -/
structure Property.Matches (d : Leeway) (property property' : Property) : Prop where
  name : d.called property.name property'.name
  type : property'.type = property.type
  source : d.written property.source property'.source
  nullable : property'.nullable = property.nullable
  restrictions : property'.restrictions = property.restrictions
  enumeration : property'.enumeration = property.enumeration

/-- Two types that are the same but for their packages, and whose properties match. -/
structure TypeDescriptor.Matches (d : Leeway) (type type' : TypeDescriptor) : Prop where
  key : type'.key = type.key
  location : type'.location = type.location
  package : d.grouped type.package type'.package
  name : type'.name = type.name
  documentation : type'.documentation = type.documentation
  parent : type'.parent = type.parent
  properties : List.Forall₂ (Property.Matches d) type.properties type'.properties

/-- Two maps with matching types under the same names. -/
def TypeMap.Matches (d : Leeway) (types types' : TypeMap) : Prop :=
  ∀ key, Option.Rel (TypeDescriptor.Matches d) (types.get? key) (types'.get? key)

/-- Two walks that have come equally far. -/
structure Walk.Matches (d : Leeway) (walk walk' : Walk) : Prop where
  types : walk.types.Matches d walk'.types
  fresh : walk'.fresh = walk.fresh

/-! ## Descriptors -/

namespace TypeDescriptor

variable {d : Leeway} {type type' newer newer' : TypeDescriptor}

theorem Matches.merge (h : type.Matches d type') (hnewer : newer.Matches d newer') :
    (type.merge newer).Matches d (type'.merge newer') where
  key := h.key
  location := by simp only [TypeDescriptor.merge, h.location, hnewer.location]
  package := d.grouped_or h.package hnewer.package
  name := h.name
  documentation := by simp only [TypeDescriptor.merge, h.documentation, hnewer.documentation]
  parent := by simp only [parent_merge, h.parent, hnewer.parent]
  properties := List.rel_append h.properties hnewer.properties

theorem Matches.withoutParent (h : type.Matches d type') :
    Matches d { type with parent := none } { type' with parent := none } :=
  { h with parent := rfl }

/-- Names that may stand for one another are those of a property on both sides or on neither. -/
theorem Matches.property?_isSome_iff (h : type.Matches d type') {name name' : String}
    (hname : d.called name name') :
    (type'.property? name').isSome = true ↔ (type.property? name).isSome = true := by
  have hproperties := h.properties
  unfold property?
  generalize type.properties = l, type'.properties = l' at hproperties
  induction hproperties with
  | nil => rfl
  | @cons property property' _ _ hproperty _ ih =>
    have hiff := d.called_iff hproperty.name hname
    by_cases heq : property.name = name
    · simp only [List.find?_cons, heq, hiff.1 heq, decide_true, Option.isSome_some]
    · have hne : ¬ property'.name = name' := fun heq' => heq (hiff.2 heq')
      simp only [List.find?_cons, heq, hne, decide_false]
      exact ih

end TypeDescriptor

/-! ## Maps -/

namespace TypeMap

variable {d : Leeway} {types types' : TypeMap} {key : ExpandedName} {type type' : TypeDescriptor}

theorem matches_empty (d : Leeway) : Matches d .empty .empty := fun _ => .none

theorem Matches.insert (h : types.Matches d types') (htype : type.Matches d type') :
    Matches d (SortedMap.insert types key type) (SortedMap.insert types' key type') := by
  intro other
  rw [SortedMap.get?_insert, SortedMap.get?_insert]
  split
  · exact .some htype
  · exact h other

/-- What is found in one map is matched by what is found in the other. -/
theorem Matches.get? (h : types.Matches d types') (hget : types.get? key = some type) :
    ∃ type', types'.get? key = some type' ∧ type.Matches d type' := by
  have hkey := h key
  rw [hget] at hkey
  cases hother : types'.get? key with
  | none => rw [hother] at hkey; cases hkey
  | some type' =>
    rw [hother] at hkey
    cases hkey with
    | some htype => exact ⟨type', rfl, htype⟩

theorem Matches.get?_eq_none (h : types.Matches d types') (hget : types.get? key = none) :
    types'.get? key = none := by
  have hkey := h key
  rw [hget] at hkey
  cases hother : types'.get? key with
  | none => rfl
  | some type' => rw [hother] at hkey; cases hkey

theorem Matches.mem_keys_iff (h : types.Matches d types') :
    key ∈ types'.keys ↔ key ∈ types.keys := by
  rw [SortedMap.mem_keys_iff, SortedMap.mem_keys_iff]
  cases hget : types.get? key with
  | none => simp [h.get?_eq_none hget]
  | some type =>
    obtain ⟨type', hget', -⟩ := h.get? hget
    simp [hget']

theorem Matches.parent?_eq (h : types.Matches d types') (key : ExpandedName) :
    types'.parent? key = types.parent? key := by
  rw [parent?, parent?]
  cases hget : types.get? key with
  | none => rw [h.get?_eq_none hget]
  | some type =>
    obtain ⟨type', hget', htype⟩ := h.get? hget
    rw [hget', Option.bind_some, Option.bind_some, htype.parent]

/-- Matching maps become one where matching types become one. -/
theorem Matches.mapValues_eq {ω : Type} (h : types.Matches d types') {f f' : TypeDescriptor → ω}
    (hf : ∀ type type' : TypeDescriptor, type.Matches d type' → f' type' = f type) :
    types'.mapValues f' = types.mapValues f := by
  refine SortedMap.ext_get? fun key => ?_
  rw [SortedMap.get?_mapValues, SortedMap.get?_mapValues]
  cases hget : types.get? key with
  | none => rw [h.get?_eq_none hget, Option.map_none, Option.map_none]
  | some type =>
    obtain ⟨type', hget', htype⟩ := h.get? hget
    rw [hget', Option.map_some, Option.map_some, hf type type' htype]

end TypeMap

/-! ## Entering declarations -/

/-- A problem is reported at the same place. -/
theorem Schema.matches_report {d : Leeway} {schema schema' : Schema} {e e' : Xml.Element}
    (hlocation : schema'.location = schema.location) (hline : e'.line = e.line)
    {problem problem' : Problem} (h : d.reported problem problem') :
    Report.Matches d (fun _ _ => True) (schema.report e problem) (schema'.report e' problem') := by
  rw [report, report, hlocation, hline]
  exact Report.matches_finding h _ _

/-- Two declarations at one place whose descriptors match, each with its own catalog. -/
structure Declaration.Matches (d : Leeway) (config config' : Config) (catalog catalog' : Catalog)
    (declared declared' : Schema × Xml.Element) : Prop where
  location : declared'.1.location = declared.1.location
  line : declared'.2.line = declared.2.line
  described : Report.Matches d (Option.Rel (TypeDescriptor.Matches d))
    (describeAny config catalog declared.1 declared.2)
    (describeAny config' catalog' declared'.1 declared'.2)

namespace Walk

variable {d : Leeway} {config config' : Config} {catalog catalog' : Catalog}
variable {schema schema' : Schema} {e e' : Xml.Element} {walk walk' : Walk}
variable {type type' : TypeDescriptor}

section

variable (hvalue : d.called config.valueName config'.valueName)
variable (hlocation : schema'.location = schema.location) (hline : e'.line = e.line)

include hvalue hlocation hline in
/-- **A parent is dropped on both sides or on neither.** -/
theorem matches_dropParent (h : type.Matches d type') :
    Report.Matches d (TypeDescriptor.Matches d) (dropParent config schema e type)
      (dropParent config' schema' e' type') := by
  have hiff := h.property?_isSome_iff hvalue
  unfold dropParent
  rw [h.parent]
  cases hproperty : type.property? config.valueName with
  | none =>
    rw [hproperty] at hiff
    have hnone : type'.property? config'.valueName = none := by simpa using hiff
    rw [hnone]
    exact Report.matches_pure h
  | some property =>
    rw [hproperty] at hiff
    obtain ⟨property', hproperty'⟩ := Option.isSome_iff_exists.1 (hiff.2 rfl)
    rw [hproperty']
    cases type.parent with
    | none => exact Report.matches_pure h
    | some parent =>
      have hsame : d.reported (.simpleContentParent type.key parent)
          (.simpleContentParent type'.key parent) := h.key ▸ d.reported_refl _
      exact (Schema.matches_report hlocation hline hsame).bind fun _ _ _ =>
        Report.matches_pure h.withoutParent

include hvalue hlocation hline in
/-- **A descriptor is entered alike on both sides.** -/
theorem matches_enter (hwalk : walk.Matches d walk') (h : type.Matches d type') :
    Report.Matches d (Walk.Matches d) (enter config schema e walk type)
      (enter config' schema' e' walk' type') := by
  unfold enter
  rw [h.key]
  cases hget : walk.types.get? type.key with
  | none =>
    rw [hwalk.types.get?_eq_none hget]
    refine Report.matches_pure ⟨hwalk.types.insert h, ?_⟩
    rw [hwalk.fresh]
  | some older =>
    obtain ⟨older', hget', holder⟩ := hwalk.types.get? hget
    rw [hget', h.location]
    refine (Schema.matches_report hlocation hline (d.reported_refl _)).bind fun _ _ _ => ?_
    refine (matches_dropParent hvalue hlocation hline (holder.merge h)).bind fun _ _ hmerged => ?_
    exact Report.matches_pure ⟨hwalk.types.insert hmerged, hwalk.fresh⟩

end

/-- So is a declaration that is described alike. -/
theorem matches_declare (hvalue : d.called config.valueName config'.valueName)
    {declared declared' : Schema × Xml.Element}
    (h : Declaration.Matches d config config' catalog catalog' declared declared')
    (hwalk : walk.Matches d walk') :
    Report.Matches d (Walk.Matches d) (declare config catalog walk declared)
      (declare config' catalog' walk' declared') := by
  unfold declare enterDescribed
  refine h.described.bind fun described described' hdescribed => ?_
  cases hdescribed with
  | none => exact Report.matches_pure hwalk
  | some htype => exact matches_enter hvalue h.location h.line hwalk htype

/-- **Walks over declarations that are described alike keep step.** -/
theorem matches_documents (hvalue : d.called config.valueName config'.valueName)
    {types types' : TypeMap} {order : List Nat}
    (hdeclarations : List.Forall₂ (Declaration.Matches d config config' catalog catalog')
      (catalog.declarationsOf order) (catalog'.declarationsOf order))
    (htypes : types.Matches d types') :
    Report.Matches d (Walk.Matches d) (documents config catalog types order)
      (documents config' catalog' types' order) := by
  rw [documents_eq_fold, documents_eq_fold]
  exact Report.matches_fold hdeclarations
    (fun _ _ _ _ hwalk hdeclared => matches_declare hvalue hdeclared hwalk) ⟨htypes, rfl⟩

end Walk

end WsdlTypes
