import WsdlTypes.Proofs.Declaration.ValueName
import WsdlTypes.Proofs.Lockstep.Session
import WsdlTypes.Proofs.Session.Members
/-!
# Sessions that call values differently

The name of values decides whether a merge drops a parent and which parameters hide others, and
the values of anonymous simple types are called by it. Where no element and no attribute has one
of two names, the sessions with the one and with the other keep step through all of this
(`matches_calls_valueName`), and so they come to the same but for the name
(`value_name_only_names`).
-/

namespace WsdlTypes

/-- The name that takes the place of another: that of values is replaced. -/
def renamedValue (value value' name : String) : String := if name = value then value' else name

/-- The property with the name of values replaced. -/
def Property.renamed (value value' : String) (property : Property) : Property :=
  { property with name := renamedValue value value' property.name }

/-- The type with the name of values replaced in its properties. -/
def TypeDescriptor.renamed (value value' : String) (type : TypeDescriptor) : TypeDescriptor :=
  { type with properties := type.properties.map (Property.renamed value value') }

/-- The parameter with the name of values replaced. -/
def Parameter.renamed (value value' : String) (parameter : Parameter) : Parameter :=
  { parameter with name := renamedValue value value' parameter.name }

/-- The operation with the name of values replaced in its parameters. -/
def Operation.renamed (value value' : String) (operation : Operation) : Operation :=
  { operation with parameters := operation.parameters.map (Parameter.renamed value value') }

/-- Two messages of a kind that are the same, but for the name of values where it is that of a
property which refers to its own type, or to one that is not declared. -/
inductive SameMessageButValue (value value' : String) :
    DiagnosticKind → String → String → Prop where
  | same (kind : DiagnosticKind) (message : String) :
    SameMessageButValue value value' kind message message
  | selfReference (type : String) :
    SameMessageButValue value value' .selfReferencingProperty
      ("Property '" ++ value ++ "' of type '" ++ type ++ "' references its own type")
      ("Property '" ++ value' ++ "' of type '" ++ type ++ "' references its own type")
  | undeclaredReference (target : ExpandedName) (type : String) :
    SameMessageButValue value value' .unresolvableReference
      ("Type '" ++ target.display ++ "' referenced by '" ++ value ++ "' of type '" ++ type
        ++ "' is not declared")
      ("Type '" ++ target.display ++ "' referenced by '" ++ value' ++ "' of type '" ++ type
        ++ "' is not declared")

namespace Leeway

variable {value value' : String}

theorem renamedValue_eq {name name' : String} (h : CalledAlike value value' name name') :
    renamedValue value value' name = name' := by
  rcases h with ⟨rfl, rfl⟩ | ⟨rfl, hne, -⟩
  · exact if_pos rfl
  · exact if_neg hne

theorem eq_renamed_of_property (property property' : Property)
    (h : property.Matches (valueName value value') property') :
    property' = property.renamed value value' := by
  cases property; cases property'
  simp only [Property.renamed, Property.mk.injEq]
  exact ⟨(renamedValue_eq h.name).symm, h.type, h.source.symm, h.nullable, h.restrictions,
    h.enumeration⟩

/-- Types that match are the same with the name replaced. -/
theorem eq_renamed_of_type (type type' : TypeDescriptor)
    (h : type.Matches (valueName value value') type') : type' = type.renamed value value' := by
  have hproperties := map_eq_of_forall₂ (g := id) eq_renamed_of_property h.properties
  have hpackage : type.package = type'.package := h.package
  rw [List.map_id] at hproperties
  cases type; cases type'
  simp only [TypeDescriptor.renamed, TypeDescriptor.mk.injEq]
  exact ⟨h.key, h.location, hpackage.symm, h.name, h.documentation, h.parent, hproperties⟩

theorem eq_renamed_of_parameter (parameter parameter' : Parameter)
    (h : parameter.Matches (valueName value value') parameter') :
    parameter' = parameter.renamed value value' := by
  cases parameter; cases parameter'
  simp only [Parameter.renamed, Parameter.mk.injEq]
  exact ⟨(renamedValue_eq h.name).symm, h.type⟩

theorem eq_of_reference (reference reference' : TypeReference)
    (h : reference.Matches (valueName value value') reference') : reference' = reference := by
  have hname : reference.qualifiedName = reference'.qualifiedName := h.qualifiedName
  cases reference; cases reference'
  simp only [TypeReference.mk.injEq]
  exact ⟨h.key, hname.symm⟩

/-- And so are operations. -/
theorem eq_renamed_of_operation (operation operation' : Operation)
    (h : operation.Matches (valueName value value') operation') :
    operation' = operation.renamed value value' := by
  have hparameters := map_eq_of_forall₂ (g := id) eq_renamed_of_parameter h.parameters
  have hwrapper := eq_of_reference _ _ h.wrapper
  have hresult := eq_of_reference _ _ h.result
  rw [List.map_id] at hparameters
  cases operation; cases operation'
  simp only [Operation.renamed, Operation.mk.injEq]
  exact ⟨h.name, hparameters, hwrapper, hresult⟩

/-- The words for findings that match are the same but for the name of values. -/
theorem sameBut_diagnostic (naming : Naming) (finding finding' : Finding)
    (h : finding.Matches (valueName value value') finding') :
    Diagnostic.SameBut (SameMessageButValue value value') (finding.diagnostic naming)
      (finding'.diagnostic naming) := by
  obtain ⟨problem, file, line⟩ := finding
  obtain ⟨problem', file', line'⟩ := finding'
  obtain ⟨hproblem, hfile, hline⟩ := h
  have hreported : Problem.SameButValue value value' problem problem' := hproblem
  cases hreported with
  | same => exact ⟨rfl, hfile, hline, .same _ _⟩
  | selfReference type => exact ⟨rfl, hfile, hline, .selfReference type⟩
  | undeclaredReference target type => exact ⟨rfl, hfile, hline, .undeclaredReference target type⟩

end Leeway

namespace Session

variable {session other : Session}

/-- A call keeps the sessions in step where it leaves documents without such names. -/
theorem SameDocuments.matches_call_valueName (h : SameDocuments session other)
    (hnaming : other.config.naming = session.config.naming)
    (hmatches : Matches (.valueName session.config.valueName other.config.valueName) session other)
    {c : Call} (hfree : (session.call c).FreeOfValues) (hfree' : (other.call c).FreeOfValues) :
    Matches (.valueName session.config.valueName other.config.valueName) (session.call c)
      (other.call c) := by
  have hknown : ∀ key, session.config.naming.qualifiedName key
      = other.config.naming.qualifiedName key := fun key => by rw [hnaming]
  have hgrouped : ∀ uri, session.config.naming.package uri = other.config.naming.package uri :=
    fun uri => by rw [hnaming]
  refine h.matches_call hmatches (Or.inl ⟨rfl, rfl⟩) hknown fun order declared hdeclared => ?_
  have hdeclared' : declared ∈ (other.call c).catalog.declarationsOf order := by
    rwa [(h.call c).catalog_eq]
  refine Declaration.matches_describeAny (Declaration.Alike.refl _ _ _) hgrouped ?_
  refine Declaration.matches_body_valueName ?_ ?_
  · have hown := hfree.of_mem_declarationsOf hdeclared
    rwa [config_call] at hown
  · have hown := hfree'.of_mem_declarationsOf hdeclared'
    rwa [config_call] at hown

/-- **Sessions that call values differently keep step** where no element or attribute of the
documents has one of the names. -/
theorem SameDocuments.matches_calls_valueName (h : SameDocuments session other)
    (hnumbered : session.library.Numbered)
    (hnaming : other.config.naming = session.config.naming)
    (hmatches : Matches (.valueName session.config.valueName other.config.valueName) session other)
    {l : List Call} (hfree : (session.calls l).FreeOfValues)
    (hfree' : (other.calls l).FreeOfValues) :
    Matches (.valueName session.config.valueName other.config.valueName) (session.calls l)
      (other.calls l) := by
  induction l generalizing session other with
  | nil => exact hmatches
  | cons c rest ih =>
    have hnext : (session.call c).library.Numbered := (call_order hnumbered).1
    have hnext' : (other.call c).library.Numbered := by rwa [(h.call c).library]
    have hcall := h.matches_call_valueName hnaming hmatches (c := c)
      (FreeOfValues.of_calls hnext rest hfree) (FreeOfValues.of_calls hnext' rest hfree')
    have hrest := ih (h.call c) hnext (by rwa [config_call, config_call])
      (by rwa [config_call, config_call]) hfree hfree'
    rwa [config_call, config_call] at hrest

/-- **The name of values is only a name.** Let two sessions be asked for the same, whatever the
files are at each call, with options that differ in the name of values alone; and let no element
and no attribute of the documents that came in have one of the two names, be it its own name or
that of what it refers to. Then the types and the operations are the same with the one name
replaced by the other in properties and parameters, and as many diagnostics are made, in the same
order, each of the same kind, file and line, and with the same message but for this name. -/
theorem value_name_only_names (config : Config) (valueName : String) (l : List Call)
    (hfree : ∀ document ∈ ((Session.new config).calls l).library.documents,
      WsdlTypes.FreeOfValues config.valueName document.root ∧
        WsdlTypes.FreeOfValues valueName document.root) :
    let session := (Session.new config).calls l
    let other := (Session.new { config with valueName }).calls l
    other.types = session.types.mapValues (TypeDescriptor.renamed config.valueName valueName) ∧
      other.operations = session.operations.map (Operation.renamed config.valueName valueName) ∧
      List.Forall₂ (Diagnostic.SameBut (SameMessageButValue config.valueName valueName))
        session.diagnostics other.diagnostics := by
  intro session other
  have hnew : SameDocuments (Session.new config) (Session.new { config with valueName }) :=
    ⟨rfl, rfl⟩
  have hsame : SameDocuments session other := hnew.calls l
  have hsession : session.FreeOfValues := fun document hmem => by
    rw [config_calls]
    exact (hfree document hmem).1
  have hother : other.FreeOfValues := fun document hmem => by
    rw [hsame.library] at hmem
    rw [config_calls]
    exact (hfree document hmem).2
  have hmatches : Matches (.valueName config.valueName valueName) session other :=
    hnew.matches_calls_valueName (numbered_new config) rfl (matches_new _ _ _) hsession hother
  refine ⟨?_, ?_, ?_⟩
  · have htypes : other.types.mapValues id
        = session.types.mapValues (TypeDescriptor.renamed config.valueName valueName) :=
      hmatches.types.mapValues_eq Leeway.eq_renamed_of_type
    rwa [SortedMap.mapValues_id] at htypes
  · have hoperations := Leeway.map_eq_of_forall₂ (g := id) Leeway.eq_renamed_of_operation
      hmatches.operations
    rwa [List.map_id] at hoperations
  · rw [diagnostics, diagnostics, config_calls, config_calls]
    exact List.rel_map (Leeway.sameBut_diagnostic config.naming) hmatches.findings

/-- The type that extends another and has a value of the same name besides loses its parent,
however values are called. -/
theorem value_name_only_names_extendedValue :
    let session := (Session.new {}).calls [⟨extendedValue, "a"⟩]
    let other := (Session.new { valueName := "value" }).calls [⟨extendedValue, "a"⟩]
    (∀ document ∈ session.library.documents,
        WsdlTypes.FreeOfValues "_" document.root ∧ WsdlTypes.FreeOfValues "value" document.root) ∧
      other.types = session.types.mapValues (TypeDescriptor.renamed "_" "value") ∧
      (other.types.get? ⟨"", "T"⟩).map
          (fun type => (type.parent, type.properties.map Property.name))
        = some (none, ["x", "value"]) := by
  have hfree : ∀ document ∈ ((Session.new {}).calls [⟨extendedValue, "a"⟩]).library.documents,
      WsdlTypes.FreeOfValues "_" document.root ∧ WsdlTypes.FreeOfValues "value" document.root := by
    decide +kernel
  exact ⟨hfree, (value_name_only_names {} "value" _ hfree).1, by decide +kernel⟩

end Session

end WsdlTypes
