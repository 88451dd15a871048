import Mathlib.Algebra.Ring.Nat
import Mathlib.Data.List.Perm.Basic
import WsdlTypes.Proofs.References
import WsdlTypes.Proofs.Session.Stages
/-!
# What is wrong with references, counted

The check of a type reports each of its references to a name that is not in the map, and one loop
if there is any on the way up (`References.findings_checkType`). A walk that begins without types
lists every name of the types that it ends with once (`Walk.fresh_perm_keys`), however often the
name was declared. So a resolution checks every type that it ends with once, and reports as many
references as there are parents and properties that are left dangling, and one loop for each type
with one above it (`Session.references_reported`).
-/

namespace WsdlTypes

/-! ## The check of a type -/

/-- Whether a problem is a reference to a name without a type. -/
def Problem.isUndeclared : Problem → Bool
  | undeclaredReference .. => true
  | _ => false

/-- How many of the parent and the properties of a type refer to a name that is not in the map. -/
def TypeMap.dangling (types : TypeMap) (type : TypeDescriptor) : Nat :=
  type.parent.toList.countP (fun target => target ∉ types.keys)
    + type.properties.countP fun property =>
        property.type.reference?.any fun target => target ∉ types.keys

namespace References

variable {types : TypeMap} {key : ExpandedName} {type : TypeDescriptor}

/-- As many references are missing as parents and properties are left dangling. -/
theorem length_missing : (missing types type).length = types.dangling type := by
  rw [missing, ← List.countP_eq_length_filter, ofType, List.countP_append, List.countP_map,
    List.countP_filterMap, TypeMap.dangling]
  refine congrArg _ (List.countP_congr fun property _ => ?_)
  cases property.type.reference? <;> simp

/-- **Where every name is checked once, every type is.** -/
theorem findings_check_perm {keys : List ExpandedName} (h : keys.Perm types.keys) :
    ((check types keys).findings).Perm
      (types.entries.flatMap fun entry => (checkType types entry.1 entry.2).findings) := by
  rw [findings_check]
  refine (h.flatMap_right _).trans (List.Perm.of_eq ?_)
  rw [SortedMap.keys, List.flatMap_map]
  refine List.flatMap_congr fun entry hentry => ?_
  rw [SortedMap.get?_eq_some_iff.2 hentry]
  simp

/-- The references that are reported. -/
theorem filter_isUndeclared_checkType :
    (checkType types key type).findings.filter (fun finding => finding.problem.isUndeclared)
      = (missing types type).map (undeclared type) := by
  rw [findings_checkType, List.filter_append, List.filter_eq_self.2, List.filter_eq_nil_iff.2,
    List.append_nil]
  · intro finding hfinding
    obtain ⟨again, -, rfl⟩ := List.mem_map.1 hfinding
    exact Bool.false_ne_true
  · intro finding hfinding
    obtain ⟨reference, -, rfl⟩ := List.mem_map.1 hfinding
    rfl

/-- The loops that are reported. -/
theorem filter_inheritanceCycle_checkType :
    (checkType types key type).findings.filter
        (fun finding => finding.problem.kind = .inheritanceCycle)
      = (types.parentCycle? key).toList.map (loop type) := by
  rw [findings_checkType, List.filter_append, List.filter_eq_nil_iff.2, List.filter_eq_self.2,
    List.nil_append]
  · intro finding hfinding
    obtain ⟨again, -, rfl⟩ := List.mem_map.1 hfinding
    rfl
  · intro finding hfinding
    obtain ⟨reference, -, rfl⟩ := List.mem_map.1 hfinding
    exact Bool.false_ne_true

/-- Of some types those report a loop that have one on the way up. -/
theorem flatMap_loop (entries : List (ExpandedName × TypeDescriptor)) :
    (entries.flatMap fun entry => (types.parentCycle? entry.1).toList.map (loop entry.2))
      = (entries.filter fun entry => types.Revisits entry.1).map fun entry =>
          loop entry.2 ((types.parentCycle? entry.1).getD entry.1) := by
  induction entries with
  | nil => rfl
  | cons entry rest ih =>
    rw [List.flatMap_cons, ih]
    cases hloop : types.parentCycle? entry.1 with
    | none =>
      have hnot : ¬types.Revisits entry.1 := fun h => by
        simpa [hloop] using TypeMap.parentCycle?_isSome_iff.2 h
      rw [List.filter_cons_of_neg (by simpa using hnot)]
      rfl
    | some again =>
      have hrevisits : types.Revisits entry.1 :=
        TypeMap.parentCycle?_isSome_iff.1 (by rw [hloop]; rfl)
      rw [List.filter_cons_of_pos (by simpa using hrevisits), List.map_cons, hloop]
      rfl

end References

/-! ## The names of a walk -/

namespace Walk

variable {config : Config} {catalog : Catalog} {walk : Walk} {start : TypeMap}

/-- A name that came in is not listed as fresh again. -/
theorem nodup_fresh_declare (h : Sound start walk) (hnodup : walk.fresh.Nodup)
    (d : Schema × Xml.Element) : (declare config catalog walk d).value.fresh.Nodup := by
  cases hdescribe : (Declaration.describeAny config catalog d.1 d.2).value with
  | none => rwa [value_declare_of_none hdescribe]
  | some type =>
    rw [value_declare_of_some hdescribe]
    cases hget : walk.types.get? type.key with
    | none =>
      have hnew : type.key ∉ walk.fresh := fun hmem =>
        SortedMap.get?_eq_none_iff.1 hget ((h.fresh _).1 hmem).1
      rw [enter_of_get?_eq_none hget]
      exact List.nodup_append.2 ⟨hnodup, List.nodup_singleton _, fun key hkey other hother heq =>
        hnew (List.mem_singleton.1 hother ▸ heq ▸ hkey)⟩
    | some older =>
      rw [value_enter_of_get?_eq_some hget]
      exact hnodup

/-- **A walk lists a name as fresh once.** -/
theorem nodup_fresh_documents (h : start.Keyed) (order : List Nat) :
    (documents config catalog start order).value.fresh.Nodup := by
  rw [documents_eq_fold]
  refine (Report.fold_induction (P := fun walk : Walk => Sound start walk ∧ walk.fresh.Nodup)
    (fun walk d _ hwalk => ?_) ⟨Sound.begin h, List.nodup_nil⟩).2
  exact ⟨hwalk.1.declare d, nodup_fresh_declare hwalk.1 hwalk.2 d⟩

/-- **A walk that begins without types lists every name.** -/
theorem fresh_perm_keys (order : List Nat) :
    (documents config catalog .empty order).value.fresh.Perm
      (documents config catalog .empty order).value.types.keys := by
  rw [List.perm_ext_iff_of_nodup (nodup_fresh_documents TypeMap.keyed_empty order)
    (SortedMap.nodup_keys _)]
  intro key
  rw [(sound_documents TypeMap.keyed_empty order).fresh key]
  exact and_iff_left List.not_mem_nil

end Walk

/-! ## A resolution -/

namespace Session

variable {config : Config} {c : Call}

/-- A resolution checks every type that it ends with. -/
theorem during_reference_new_call :
    (((Session.new config).call c).during .reference).Perm
      (((Session.new config).call c).types.entries.flatMap fun entry =>
        (References.checkType ((Session.new config).call c).types entry.1 entry.2).findings) := by
  rw [during_reference_call, types_call]
  exact References.findings_check_perm (Walk.fresh_perm_keys _)

/-- What it reports of some problems with references is what the checks of the types report. -/
theorem filter_findings_new_call {p : Problem → Bool}
    (hp : ∀ problem, p problem = true → problem.stage = .reference) :
    (((Session.new config).call c).findings.filter fun finding => p finding.problem).Perm
      (((Session.new config).call c).types.entries.flatMap fun entry =>
        (References.checkType ((Session.new config).call c).types entry.1 entry.2).findings.filter
          fun finding => p finding.problem) := by
  rw [← filter_during hp, ← List.filter_flatMap]
  exact during_reference_new_call.filter _

/-- The references that are reported. -/
theorem undeclared_perm :
    (((Session.new config).call c).findings.filter fun finding =>
        finding.problem.isUndeclared).Perm
      (((Session.new config).call c).types.entries.flatMap fun entry =>
        (References.missing ((Session.new config).call c).types entry.2).map
          (References.undeclared entry.2)) := by
  refine (filter_findings_new_call fun problem h => ?_).trans (List.Perm.of_eq ?_)
  · cases problem with
    | undeclaredReference => rfl
    | _ => cases h
  · exact List.flatMap_congr fun entry _ => References.filter_isUndeclared_checkType

/-- The loops that are reported. -/
theorem loops_perm :
    (((Session.new config).call c).findings.filter fun finding =>
        finding.problem.kind = .inheritanceCycle).Perm
      (((Session.new config).call c).types.entries.flatMap fun entry =>
        (((Session.new config).call c).types.parentCycle? entry.1).toList.map
          (References.loop entry.2)) := by
  refine (filter_findings_new_call (p := fun problem => problem.kind = .inheritanceCycle)
    fun problem h => ?_).trans (List.Perm.of_eq ?_)
  · cases problem with
    | inheritanceLoop => rfl
    | _ => simp [Problem.kind] at h
  · exact List.flatMap_congr fun entry _ => References.filter_inheritanceCycle_checkType

/-- **A resolution reports what is wrong with the references of the types that it ends with**, each
thing once and for the type that refers: as many references as there are parents and properties
whose type is not there, and a loop for every type with one above it, which is said to close at the
first name that is met again. -/
theorem references_reported (config : Config) (c : Call) :
    let session := (Session.new config).call c
    (session.findings.filter fun finding => finding.problem.isUndeclared).Perm
        (session.types.entries.flatMap fun entry =>
          (References.missing session.types entry.2).map (References.undeclared entry.2)) ∧
      (session.findings.countP fun finding => finding.problem.isUndeclared)
        = (session.types.values.map session.types.dangling).sum ∧
      ∃ again : ExpandedName → ExpandedName,
        (∀ key, session.types.Revisits key →
          ∀ name, session.types.MeetsAgain key name ↔ name = again key) ∧
        (session.findings.filter fun finding => finding.problem.kind = .inheritanceCycle).Perm
          ((session.types.entries.filter fun entry => session.types.Revisits entry.1).map
            fun entry => References.loop entry.2 (again entry.1)) := by
  intro session
  refine ⟨undeclared_perm, ?_, fun key => (session.types.parentCycle? key).getD key,
    fun key hrevisits name => ?_, loops_perm.trans (List.Perm.of_eq (References.flatMap_loop _))⟩
  · rw [List.countP_eq_length_filter, undeclared_perm.length_eq, List.length_flatMap,
      SortedMap.values, List.map_map]
    simp only [List.length_map, References.length_missing, Function.comp_def]
    rfl
  · -- A loop is found, and the name that is found is the one that is met again.
    obtain ⟨found, hfound⟩ :=
      Option.isSome_iff_exists.1 (TypeMap.parentCycle?_isSome_iff.2 hrevisits)
    simp only [← TypeMap.parentCycle?_eq_some_iff, hfound, Option.getD_some, Option.some.injEq,
      eq_comm]

end Session

end WsdlTypes
