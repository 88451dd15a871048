import Mathlib.Data.List.ReduceOption
import WsdlTypes.Proofs.Inheritance
import WsdlTypes.Service
/-!
# Operations that stay resolved

An operation is resolved where its two messages are declared, each wraps one element whose
type is in the map, and the way up from the type of the input ends
(`operation_eq_ok_iff`). All of this stays so when documents and types come to what there was
(`operation_of_within`). The operations of some documents and what is reported of them are told
element by element (`value_operationsOf`, `findings_operationsOf`). So resolving them in silence
gives one operation for every element that declares one, and no other (`map_ok_operationsOf`).
-/

namespace WsdlTypes

/-- What is found among the messages is found among more of them, too. -/
theorem Catalog.message?_of_append {catalog catalog' : Catalog} {more : List Definitions}
    (hmore : catalog'.definitions = catalog.definitions ++ more) {key : ExpandedName}
    {found : Definitions × Xml.Element} (h : catalog.message? key = some found) :
    catalog'.message? key = some found := by
  rw [message?] at h ⊢
  rw [hmore, List.findSome?_append, h]
  rfl

namespace Service

variable {naming : Naming} {catalog catalog' : Catalog} {types types' : TypeMap}
variable {definitions : Definitions} {e : Xml.Element} {op : Operation}
variable {message : ExpandedName} {type : TypeDescriptor} {name : String} {direction : Direction}

/-! ## When an operation is resolved -/

/-- Where a computation ends well, so did its first step. -/
theorem bind_eq_ok {ε α β : Type} {x : Except ε α} {f : α → Except ε β} {b : β}
    (h : x >>= f = .ok b) : ∃ a, x = .ok a ∧ f a = .ok b := by
  cases x with
  | error cause => cases h
  | ok a => exact ⟨a, rfl, h⟩

/-- The type of what a message wraps is that of the element of its part. -/
theorem messageType_eq_ok_iff :
    messageType catalog types message = .ok type ↔
      ∃ declaring e part element key, catalog.message? message = some (declaring, e) ∧
        e.child? wsdlUri "part" = some part ∧ part.attribute? "element" = some element ∧
        expand declaring part element = .ok key ∧ types.get? key = some type := by
  constructor
  · intro h
    unfold messageType at h
    split at h
    · cases h
    · rename_i declaring e hmessage
      split at h
      · cases h
      · rename_i part hpart
        split at h
        · cases h
        · rename_i element helement
          obtain ⟨key, hkey, h⟩ := bind_eq_ok h
          split at h
          · rename_i found hget
            cases h
            exact ⟨declaring, e, part, element, key, hmessage, hpart, helement, hkey, hget⟩
          · cases h
  · rintro ⟨declaring, e, part, element, key, hmessage, hpart, helement, hkey, hget⟩
    simp only [messageType, hmessage, hpart, helement, hkey, hget, bind, Except.bind]
    rfl

theorem directionType_eq_ok_iff :
    directionType catalog types definitions e name direction = .ok type ↔
      ∃ reference written key, messageName e name direction = .ok (reference, written) ∧
        expand definitions reference written = .ok key ∧
        messageType catalog types key = .ok type := by
  constructor
  · intro h
    obtain ⟨⟨reference, written⟩, hname, h⟩ := bind_eq_ok h
    obtain ⟨key, hkey, h⟩ := bind_eq_ok h
    exact ⟨reference, written, key, hname, hkey, h⟩
  · rintro ⟨reference, written, key, hname, hkey, h⟩
    simp only [directionType, hname, hkey, bind, Except.bind]
    exact h

/-- **An operation is resolved** where both its messages are and what its input inherits is. -/
theorem operation_eq_ok_iff :
    operation naming catalog types definitions e = .ok op ↔
      ∃ input output, e.attribute? "name" = some op.name ∧
        directionType catalog types definitions e op.name .input = .ok input ∧
        directionType catalog types definitions e op.name .output = .ok output ∧
        types.flatten input = .ok op.parameters ∧
        op.wrapper = reference naming input ∧ op.result = reference naming output := by
  constructor
  · intro h
    unfold operation at h
    split at h
    · cases h
    · rename_i name hname
      obtain ⟨input, hinput, h⟩ := bind_eq_ok h
      obtain ⟨output, houtput, h⟩ := bind_eq_ok h
      obtain ⟨parameters, hflatten, h⟩ := bind_eq_ok h
      cases h
      exact ⟨input, output, hname, hinput, houtput, hflatten, rfl, rfl⟩
  · rintro ⟨input, output, hname, hinput, houtput, hflatten, hwrapper, hresult⟩
    simp only [operation, hname, hinput, houtput, hflatten, bind, Except.bind]
    rw [← hwrapper, ← hresult]
    rfl

/-! ## It stays resolved -/

theorem directionType_of_within {more : List Definitions}
    (hmore : catalog'.definitions = catalog.definitions ++ more) (hwithin : types.Within types')
    (h : directionType catalog types definitions e name direction = .ok type) :
    directionType catalog' types' definitions e name direction = .ok type := by
  obtain ⟨reference, written, key, hname, hkey, h⟩ := directionType_eq_ok_iff.1 h
  obtain ⟨declaring, message, part, element, target, hmessage, hpart, helement, htarget, hget⟩ :=
    messageType_eq_ok_iff.1 h
  refine directionType_eq_ok_iff.2 ⟨reference, written, key, hname, hkey, ?_⟩
  exact messageType_eq_ok_iff.2 ⟨declaring, message, part, element, target,
    Catalog.message?_of_append hmore hmessage, hpart, helement, htarget, hwithin target type hget⟩

/-- **An operation stays resolved** when documents and types come to what there was. -/
theorem operation_of_within {more : List Definitions}
    (hmore : catalog'.definitions = catalog.definitions ++ more) (hwithin : types.Within types')
    (h : operation naming catalog types definitions e = .ok op) :
    operation naming catalog' types' definitions e = .ok op := by
  obtain ⟨input, output, hname, hinput, houtput, hflatten, hwrapper, hresult⟩ :=
    operation_eq_ok_iff.1 h
  exact operation_eq_ok_iff.2 ⟨input, output, hname, directionType_of_within hmore hwithin hinput,
    directionType_of_within hmore hwithin houtput, TypeMap.flatten_of_within hwithin hflatten,
    hwrapper, hresult⟩

/-- The type of a direction stands in the map under its own name. -/
theorem get?_of_directionType (hkeyed : types.Keyed)
    (h : directionType catalog types definitions e name direction = .ok type) :
    types.get? type.key = some type := by
  obtain ⟨_, _, key, -, -, h⟩ := directionType_eq_ok_iff.1 h
  obtain ⟨_, _, _, _, target, -, -, -, -, hget⟩ := messageType_eq_ok_iff.1 h
  rw [(hkeyed target type hget).1]
  exact hget

/-- **What an operation names is in the map**, and its parameters are what its wrapper
inherits. -/
theorem operation_names (hkeyed : types.Keyed)
    (h : operation naming catalog types definitions e = .ok op) :
    op.wrapper.key ∈ types.keys ∧ op.result.key ∈ types.keys ∧
      ∀ type, types.get? op.wrapper.key = some type → types.flatten type = .ok op.parameters := by
  obtain ⟨input, output, -, hinput, houtput, hflatten, hwrapper, hresult⟩ :=
    operation_eq_ok_iff.1 h
  have hin := get?_of_directionType hkeyed hinput
  have hout := get?_of_directionType hkeyed houtput
  rw [hwrapper, hresult]
  refine ⟨SortedMap.mem_keys_iff.2 ⟨input, hin⟩, SortedMap.mem_keys_iff.2 ⟨output, hout⟩, ?_⟩
  intro type hget
  rw [reference, hin, Option.some.injEq] at hget
  rw [← hget]
  exact hflatten

/-! ## All operations of some documents -/

/-- The elements of service descriptions that declare operations, each with its description. -/
def declarations (l : List Definitions) : List (Definitions × Xml.Element) :=
  l.flatMap fun definitions => (operationElements definitions).map (definitions, ·)

variable (naming catalog types)

/-- What the elements of service descriptions come to as operations, one by one. -/
def outcomes (l : List Definitions) : List (Except OperationError Operation) :=
  (declarations l).map fun declared => operation naming catalog types declared.1 declared.2

/-- The operation that an element of a service description declares, if it resolves. -/
def resolved? (declared : Definitions × Xml.Element) : Option Operation :=
  (operation naming catalog types declared.1 declared.2).toOption

/-- What is reported of an element of a service description, if it does not resolve. -/
def unresolved? (declared : Definitions × Xml.Element) : Option Finding :=
  match operation naming catalog types declared.1 declared.2 with
  | .ok _ => none
  | .error cause => some ⟨.unresolvedOperation cause, declared.1.location, declared.2.line⟩

variable {naming catalog types}

theorem outcomes_append {l l' : List Definitions} :
    outcomes naming catalog types (l ++ l')
      = outcomes naming catalog types l ++ outcomes naming catalog types l' := by
  rw [outcomes, declarations, List.flatMap_append, List.map_append]
  rfl

theorem outcomes_perm {l l' : List Definitions} (h : l.Perm l') :
    (outcomes naming catalog types l).Perm (outcomes naming catalog types l') :=
  (h.flatMap_right _).map _

/-- Where every element came to an operation, it comes to the same one with more documents and
types. -/
theorem outcomes_of_within {more l : List Definitions}
    (hmore : catalog'.definitions = catalog.definitions ++ more) (hwithin : types.Within types')
    (h : ∀ outcome ∈ outcomes naming catalog types l, ∃ op, outcome = .ok op) :
    outcomes naming catalog' types' l = outcomes naming catalog types l := by
  refine List.map_congr_left fun declared hmem => ?_
  obtain ⟨op, hop⟩ := h _ (List.mem_map_of_mem hmem)
  rw [hop]
  exact operation_of_within hmore hwithin hop

theorem value_reportedOperation :
    (reportedOperation naming catalog types definitions e).value
      = resolved? naming catalog types (definitions, e) := by
  rw [reportedOperation, resolved?]
  cases operation naming catalog types definitions e <;> rfl

theorem findings_reportedOperation :
    (reportedOperation naming catalog types definitions e).findings
      = (unresolved? naming catalog types (definitions, e)).toList := by
  rw [reportedOperation, unresolved?]
  cases operation naming catalog types definitions e <;> rfl

/-- The operations of some documents are those of the elements that resolve. -/
theorem value_operationsOf (documents : List Nat) :
    (operationsOf naming catalog types documents).value
      = (declarations (catalog.definitionsOf documents)).filterMap
        (resolved? naming catalog types) := by
  rw [operationsOf, Report.value_map, Report.value_each, declarations, List.filterMap_flatMap,
    List.flatMap_def]
  congr 2
  funext definitions
  rw [operations, Report.value_map, Report.value_each, List.reduceOption, List.filterMap_map,
    List.filterMap_map]
  exact congrFun (congrArg _ (funext fun e => value_reportedOperation)) _

/-- And each of the others is reported. -/
theorem findings_operationsOf (documents : List Nat) :
    (operationsOf naming catalog types documents).findings
      = (declarations (catalog.definitionsOf documents)).filterMap
        (unresolved? naming catalog types) := by
  rw [operationsOf, Report.findings_map, Report.findings_each, declarations,
    List.filterMap_flatMap]
  congr 1
  funext definitions
  rw [operations, Report.findings_map, Report.findings_each, List.filterMap_map,
    List.filterMap_eq_flatMap_toList]
  exact congrArg (List.flatMap · _) (funext fun e => findings_reportedOperation)

/-- **One operation for every element that declares one**, where nothing is reported. -/
theorem map_ok_operationsOf {order : List Nat}
    (h : (operationsOf naming catalog types order).findings = []) :
    (operationsOf naming catalog types order).value.map Except.ok
      = outcomes naming catalog types (catalog.definitionsOf order) := by
  rw [findings_operationsOf, List.filterMap_eq_nil_iff] at h
  rw [value_operationsOf, List.map_filterMap, outcomes, ← List.filterMap_eq_map]
  refine List.filterMap_congr fun declared hmem => ?_
  have hnone := h declared hmem
  rw [unresolved?] at hnone
  rw [resolved?, Function.comp_apply]
  cases hop : operation naming catalog types declared.1 declared.2 with
  | ok op => rfl
  | error cause =>
    rw [hop] at hnone
    cases hnone

end Service

end WsdlTypes
