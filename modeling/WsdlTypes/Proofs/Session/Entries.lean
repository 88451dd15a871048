import Mathlib.Algebra.Ring.Nat
import WsdlTypes.Proofs.Operations
import WsdlTypes.Proofs.Session.Checked
import WsdlTypes.Proofs.Session.Merged
import WsdlTypes.Proofs.Walk.Entries
/-!
# Entries, reports and operations agree

A type is found under a name that its fields tell, too; its package is computed again wherever an
operation refers to it; and a property that refers to its own type is reported once, when it is
described, whatever the type is merged with later. After any calls these agree (`entries_agree`).
-/

namespace WsdlTypes

/-- The name of a type behind its package, if it has one. -/
def TypeDescriptor.qualifiedName (separator : String) (type : TypeDescriptor) : String :=
  if type.package.isEmpty then type.name else type.package ++ separator ++ type.name

/-- A type that has the local name of a key and lies in the package of its namespace is called as
naming says of the key. -/
theorem TypeDescriptor.qualifiedName_eq {naming : Naming} {key : ExpandedName}
    {type : TypeDescriptor} (hname : type.name = key.name)
    (hpackage : type.package = naming.package key.uri) :
    type.qualifiedName naming.separator = naming.qualifiedName key := by
  rw [qualifiedName, hname, hpackage]
  rfl

namespace Session

variable {session : Session} {c : Call}

/-! ## Properties that refer to their own type -/

theorem selfReferencesIn_call :
    selfReferencesIn (session.call c).findings = selfReferencesIn session.findings
      ++ (Walk.descriptors session.config (session.call c).catalog
          ((session.call c).catalog.declarationsOf (session.order c))).flatMap
        TypeDescriptor.selfReferences := by
  have hduring : ∀ s : Session,
      selfReferencesIn s.findings = selfReferencesIn (s.during .description) := fun s => by
    rw [selfReferencesIn, selfReferencesIn, List.filter_map, List.filter_map]
    refine congrArg _ (filter_during (p := fun problem =>
      problem.kind = .selfReferencingProperty) fun problem h => ?_).symm
    cases problem with
    | selfReference => rfl
    | _ => simp [Problem.kind] at h
  rw [hduring, hduring session, during_description_call, selfReferencesIn_append, walked,
    Walk.selfReferencesIn_documents]

theorem selfReferencesIn_calls (session : Session) (l : List Call) :
    selfReferencesIn (session.calls l).findings = selfReferencesIn session.findings
      ++ (session.described l).flatMap TypeDescriptor.selfReferences := by
  induction l generalizing session with
  | nil => exact (List.append_nil _).symm
  | cons c rest ih =>
    rw [calls_cons, ih, selfReferencesIn_call, described_cons, List.flatMap_append,
      List.append_assoc]

theorem name_of_mem_described {l : List Call} {type : TypeDescriptor}
    (h : type ∈ session.described l) : type.name = type.key.name := by
  obtain ⟨d, -, hdescribe⟩ := List.mem_filterMap.1 h
  obtain ⟨name, -, hkey, hname⟩ := Declaration.key_of_describeAny hdescribe
  rw [hname, hkey]

/-- **The reports of properties that refer to their own type** are those of the properties that do
so in the types that there are. -/
theorem selfReferencesIn_new_calls (config : Config) (l : List Call) :
    (selfReferencesIn ((Session.new config).calls l).findings).Perm
      (((Session.new config).calls l).types.entries.flatMap fun entry =>
        (entry.2.properties.filter fun property => property.type = .reference entry.1).map
          fun property => .selfReference property.name entry.2.name) := by
  have hkeyed : ((Session.new config).calls l).types.Keyed := keyed_calls TypeMap.keyed_empty l
  rw [selfReferencesIn_calls]
  refine ((combined_new_calls config l).selfReferences_perm hkeyed fun _ hpart =>
    name_of_mem_described hpart).symm.trans (List.Perm.of_eq ?_)
  refine List.flatMap_congr fun entry hentry => ?_
  rw [TypeDescriptor.selfReferences, (hkeyed _ _ (SortedMap.get?_eq_some_iff.2 hentry)).1]

/-! ## Packages -/

theorem packaged_calls (h : session.types.Packaged session.config.naming) (l : List Call) :
    (session.calls l).types.Packaged (session.calls l).config.naming :=
  calls_induction (P := fun s => s.types.Packaged s.config.naming)
    (fun hs => by
      rw [types_call, config_call]
      exact Walk.packaged_documents hs) h l

/-! ## What operations refer to -/

/-- What operations refer to is among the types, and is called by the package of its namespace. -/
def Refers (session : Session) : Prop :=
  ∀ op ∈ session.operations, ∀ reference ∈ [op.wrapper, op.result],
    reference.key ∈ session.types.keys ∧
      reference.qualifiedName = session.config.naming.qualifiedName reference.key

/-- The operations of a call refer to types that are there when it is over, and no call takes a type
away. -/
theorem Refers.call (h : session.Refers) (hkeyed : session.types.Keyed) :
    (session.call c).Refers := by
  intro op hop reference hreference
  rw [config_call]
  rw [operations_call] at hop
  rcases List.mem_append.1 hop with hold | hnew
  · obtain ⟨hkey, hname⟩ := h op hold reference hreference
    exact ⟨mem_keys_call hkeyed hkey, hname⟩
  · rw [Service.value_operationsOf] at hnew
    obtain ⟨⟨definitions, e⟩, -, hresolved⟩ := List.mem_filterMap.1 hnew
    have hoperation := Service.operation_eq_ok_iff_resolves.2
      (Service.resolved?_eq_some_iff.1 hresolved)
    obtain ⟨hwrapper, hresult, -⟩ := Service.operation_names (keyed_call hkeyed) hoperation
    obtain ⟨input, output, -, -, -, -, hin, hout⟩ := Service.operation_eq_ok_iff.1 hoperation
    rcases List.mem_pair.1 hreference with rfl | rfl
    · exact ⟨hwrapper, by rw [hin]; rfl⟩
    · exact ⟨hresult, by rw [hout]; rfl⟩

theorem refers_calls (h : session.Refers) (hkeyed : session.types.Keyed) (l : List Call) :
    (session.calls l).Refers :=
  (calls_induction (P := fun s => s.types.Keyed ∧ s.Refers)
    (fun hs => ⟨keyed_call hs.1, hs.2.call hs.1⟩) ⟨hkeyed, h⟩ l).2

/-- **Entries agree with their names, with the reports, and with the operations.** After any calls,
however many declarations came together under a name, the type that is found there has this name and
lies in the package of its namespace. The reports of properties that refer to their own type are
those of the properties that do so in the types that there are, each of them once. And what an
operation refers to is among the types and is called by the package and the name that this type
has. -/
theorem entries_agree (config : Config) (l : List Call) :
    let session := (Session.new config).calls l
    (∀ key type, session.types.get? key = some type →
        type.key = key ∧ type.name = key.name ∧ type.package = config.naming.package key.uri) ∧
      ((session.findings.map Finding.problem).filter fun problem =>
          problem.kind = .selfReferencingProperty).Perm
        (session.types.entries.flatMap fun entry =>
          (entry.2.properties.filter fun property => property.type = .reference entry.1).map
            fun property => .selfReference property.name entry.2.name) ∧
      (session.diagnostics.countP fun diagnostic => diagnostic.kind = .selfReferencingProperty)
        = (session.types.entries.map fun entry =>
            entry.2.properties.countP fun property => property.type = .reference entry.1).sum ∧
      ∀ op ∈ session.operations, ∀ reference ∈ [op.wrapper, op.result],
        ∃ type, session.types.get? reference.key = some type ∧
          reference.qualifiedName = type.qualifiedName config.separator := by
  intro session
  have hconfig : session.config = config := config_calls _ l
  have hkeyed : session.types.Keyed := keyed_calls TypeMap.keyed_empty l
  have hpackaged : session.types.Packaged config.naming :=
    hconfig ▸ packaged_calls (fun _ _ hget => by cases hget) l
  have hentry : ∀ key type, session.types.get? key = some type →
      type.key = key ∧ type.name = key.name ∧ type.package = config.naming.package key.uri :=
    fun key type hget => by
      obtain ⟨hkey, hname⟩ := hkeyed key type hget
      exact ⟨hkey, hname, hpackaged key type hget⟩
  have hperm := selfReferencesIn_new_calls config l
  refine ⟨hentry, hperm, ?_, fun op hop reference hreference => ?_⟩
  · have hlength := hperm.length_eq
    rw [List.length_flatMap] at hlength
    simp only [List.length_map, ← List.countP_eq_length_filter] at hlength
    rw [← hlength, diagnostics, List.countP_map, selfReferencesIn, List.filter_map,
      List.length_map, ← List.countP_eq_length_filter]
    rfl
  · have hrefers : session.Refers :=
      refers_calls (fun _ hnone => absurd hnone List.not_mem_nil) TypeMap.keyed_empty l
    obtain ⟨hkey, hname⟩ := hrefers op hop reference hreference
    obtain ⟨type, hget⟩ := SortedMap.mem_keys_iff.1 hkey
    obtain ⟨-, htypename, hpackage⟩ := hentry _ type hget
    refine ⟨type, hget, ?_⟩
    rw [hname, hconfig]
    exact (TypeDescriptor.qualifiedName_eq htypename hpackage).symm

end Session

end WsdlTypes
