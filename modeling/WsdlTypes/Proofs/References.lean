import Mathlib.Data.List.Basic
import WsdlTypes.Proofs.Inheritance
import WsdlTypes.References
/-!
# What a check of references finds

A type refers to its parent and, looking through arrays, to the types of its properties
(`TypeDescriptor.Refers`). The check of some names reports, for the type of each of them,
every reference to what is not in the map and a loop on the way up, and nothing else
(`mem_findings_check`). So where it is silent the types of these names refer to types of the
map alone, and no way up from them meets a name twice (`findings_check_eq_nil_iff`).
-/

namespace WsdlTypes

/-- What a type refers to, and who refers: its parent, and the declarations that the types of
its properties come down to. -/
inductive TypeDescriptor.Refers (type : TypeDescriptor) : String → ExpandedName → Prop where
  | parent {target : ExpandedName} (h : type.parent = some target) : Refers type "parent" target
  | property {property : Property} {target : ExpandedName} (hmem : property ∈ type.properties)
      (h : property.type.reference? = some target) : Refers type property.name target

/-- Everything that the types of a map refer to is in the map. -/
def TypeMap.Closed (types : TypeMap) : Prop :=
  ∀ key type, types.get? key = some type →
    ∀ referrer target, type.Refers referrer target → target ∈ types.keys

namespace TypeMap

theorem closed_empty : Closed .empty := by
  intro key type h
  cases h

/-- The parent of a type is in a closed map. -/
theorem Closed.mem_keys_of_parent? {types : TypeMap} (h : types.Closed)
    {key parent : ExpandedName} (hparent : types.parent? key = some parent) :
    parent ∈ types.keys := by
  obtain ⟨type, hget, hparent⟩ := Option.bind_eq_some_iff.1 hparent
  exact h key type hget "parent" parent (.parent hparent)

end TypeMap

namespace References

variable {types : TypeMap} {keys : List ExpandedName} {key : ExpandedName}
variable {type : TypeDescriptor} {referrer : String} {target : ExpandedName} {finding : Finding}

theorem mem_ofType : (referrer, target) ∈ ofType type ↔ type.Refers referrer target := by
  rw [ofType, List.mem_append]
  constructor
  · rintro (h | h)
    · obtain ⟨parent, hparent, heq⟩ := List.mem_map.1 h
      cases heq
      exact .parent (Option.mem_toList.1 hparent)
    · obtain ⟨property, hmem, h⟩ := List.mem_filterMap.1 h
      obtain ⟨found, hfound, heq⟩ := Option.map_eq_some_iff.1 h
      cases heq
      exact .property hmem hfound
  · rintro (h | ⟨hmem, h⟩)
    · exact Or.inl (List.mem_map.2 ⟨target, Option.mem_toList.2 h, rfl⟩)
    · exact Or.inr (List.mem_filterMap.2 ⟨_, hmem, by rw [h]; rfl⟩)

/-- The references of a type to names that are not in the map, each with who refers. -/
def missing (types : TypeMap) (type : TypeDescriptor) : List (String × ExpandedName) :=
  (ofType type).filter fun reference => reference.2 ∉ types.keys

/-- The report of a reference of a type. -/
def undeclared (type : TypeDescriptor) (reference : String × ExpandedName) : Finding :=
  ⟨.undeclaredReference reference.2 reference.1 type.name, type.location, 0⟩

/-- The report of a loop on the way up from a type. -/
def loop (type : TypeDescriptor) (again : ExpandedName) : Finding :=
  ⟨.inheritanceLoop type.name again, type.location, 0⟩

/-- **The check of a type** reports what is missing, and a loop if there is one. -/
theorem findings_checkType : (checkType types key type).findings
    = (missing types type).map (undeclared type)
      ++ (types.parentCycle? key).toList.map (loop type) := by
  rw [checkType, Report.findings_bind, Report.findings_each]
  refine congrArg₂ _ ?_ ?_
  · have hmissing : ((ofType type).filter fun reference => !types.contains reference.2)
        = missing types type :=
      List.filter_congr fun reference _ => by
        rw [Bool.eq_iff_iff]
        simp [← SortedMap.contains_iff]
    rw [hmissing, List.map_eq_flatMap]
    rfl
  · cases types.parentCycle? key <;> rfl

/-- The check of names is that of their types, in order. -/
theorem findings_check (keys : List ExpandedName) : (check types keys).findings
    = keys.flatMap fun key =>
        (types.get? key).toList.flatMap fun type => (checkType types key type).findings := by
  simp only [check, Report.findings_bind, Report.findings_pure, List.append_nil,
    Report.findings_each]
  refine List.flatMap_congr fun key _ => ?_
  cases types.get? key <;> simp

/-- What the check of a type reports: a reference to what is not there, or a loop. -/
theorem mem_findings_checkType :
    finding ∈ (checkType types key type).findings ↔
      (∃ referrer target, type.Refers referrer target ∧ target ∉ types.keys ∧
        finding = ⟨.undeclaredReference target referrer type.name, type.location, 0⟩) ∨
      ∃ closedBy, types.parentCycle? key = some closedBy ∧
        finding = ⟨.inheritanceLoop type.name closedBy, type.location, 0⟩ := by
  rw [findings_checkType, List.mem_append, List.mem_map, List.mem_map]
  refine or_congr ?_ ?_
  · simp only [missing, List.mem_filter, Prod.exists, mem_ofType, decide_eq_true_eq, and_assoc,
      undeclared, eq_comm (a := finding)]
  · simp only [Option.mem_toList, loop, eq_comm (a := finding)]

/-- **What a check reports**, exactly. -/
theorem mem_findings_check :
    finding ∈ (check types keys).findings ↔
      ∃ key ∈ keys, ∃ type, types.get? key = some type ∧
        finding ∈ (checkType types key type).findings := by
  simp only [findings_check, List.mem_flatMap, Option.mem_toList]

/-- **Where a check is silent** the types it looked at refer to types of the map alone, and no
way up from them meets a name twice. -/
theorem findings_check_eq_nil_iff :
    (check types keys).findings = [] ↔
      ∀ key ∈ keys, ∀ type, types.get? key = some type →
        (∀ referrer target, type.Refers referrer target → target ∈ types.keys) ∧
          types.parentCycle? key = none := by
  rw [List.eq_nil_iff_forall_not_mem]
  constructor
  · intro h key hkey type hget
    have hsilent : ∀ finding, finding ∉ (checkType types key type).findings :=
      fun finding hfinding => h finding (mem_findings_check.2 ⟨key, hkey, type, hget, hfinding⟩)
    constructor
    · intro referrer target href
      refine Decidable.byContradiction fun hmissing => ?_
      exact hsilent _ (mem_findings_checkType.2
        (Or.inl ⟨referrer, target, href, hmissing, rfl⟩))
    · cases hloop : types.parentCycle? key with
      | none => rfl
      | some closedBy =>
        exact absurd (mem_findings_checkType.2 (Or.inr ⟨closedBy, hloop, rfl⟩)) (hsilent _)
  · intro h finding hfinding
    obtain ⟨key, hkey, type, hget, hfinding⟩ := mem_findings_check.1 hfinding
    obtain ⟨hdeclared, hloop⟩ := h key hkey type hget
    rcases mem_findings_checkType.1 hfinding with
      ⟨referrer, target, href, hmissing, -⟩ | ⟨closedBy, hclosed, -⟩
    · exact hmissing (hdeclared referrer target href)
    · rw [hloop] at hclosed
      cases hclosed

end References

/-! ## A map that grew -/

namespace TypeMap

variable {types types' : TypeMap} {fresh : List ExpandedName}

/-- **A map stays closed** when what came to it refers to types of the map alone. -/
theorem Closed.of_within (h : types.Closed) (hwithin : types.Within types')
    (hfresh : ∀ key ∈ types'.keys, key ∉ types.keys → key ∈ fresh)
    (hcheck : (References.check types' fresh).findings = []) : types'.Closed := by
  intro key type hget referrer target href
  by_cases hold : key ∈ types.keys
  · -- A type that was there is as it was, and the map keeps what it refers to.
    obtain ⟨older, holder⟩ := SortedMap.mem_keys_iff.1 hold
    have heq := hwithin key older holder
    rw [hget, Option.some.injEq] at heq
    exact hwithin.mem_keys (h key type (heq ▸ holder) referrer target href)
  · have hkey := hfresh key (SortedMap.mem_keys_iff.2 ⟨type, hget⟩) hold
    exact (References.findings_check_eq_nil_iff.1 hcheck key hkey type hget).1 referrer target href

/-- **And it stays without loops** when there is none on the way up from what came to it. -/
theorem Acyclic.of_within (h : types.Acyclic) (hclosed : types.Closed)
    (hwithin : types.Within types')
    (hfresh : ∀ key ∈ types'.keys, key ∉ types.keys → key ∈ fresh)
    (hcheck : (References.check types' fresh).findings = []) : types'.Acyclic := by
  intro key path hpath
  by_cases hold : key ∈ types.keys
  · refine h key path (hpath.of_within hwithin (fun key parent hparent => ?_) hold)
    exact hclosed.mem_keys_of_parent? hparent
  · by_cases hkey : key ∈ types'.keys
    · obtain ⟨type, hget⟩ := SortedMap.mem_keys_iff.1 hkey
      have hsilent := References.findings_check_eq_nil_iff.1 hcheck key (hfresh key hkey hold) type
      exact parentCycle?_eq_none_iff.1 (hsilent hget).2 path hpath
    · rw [hpath.eq_nil hkey]
      simp

end TypeMap

end WsdlTypes
