import WsdlTypes.Proofs.Lockstep.Session
/-!
# How types are named

How namespaces are grouped, what separates their parts and which version of SOAP a service is
bound to is a matter of what types are called in the end. Sessions that differ in this alone
keep step (`SameDocuments.matches_naming`): the package of a type is written and never read but
by a merge, which carries it over, and the full name of a type stands in operations and in two
kinds of messages. So the sessions come to the same but for packages and full names
(`naming_only_names`).
-/

namespace WsdlTypes

/-- Sessions under two namings differ in packages and in full names alone. -/
def Leeway.naming : Leeway where
  called := Eq
  written := Eq
  grouped _ _ := True
  known _ _ := True
  reported := Eq
  called_iff := @Leeway.eq_iff_of_eq
  grouped_or _ _ := trivial
  reported_refl _ := rfl
  reported_selfReference ha _ := by rw [ha]
  reported_undeclaredReference ha _ _ := by rw [ha]

/-- The type without its package. -/
def TypeDescriptor.ungrouped (type : TypeDescriptor) : TypeDescriptor := { type with package := "" }

/-- The operation without the full names of its types. -/
def Operation.unqualified (operation : Operation) : Operation :=
  { operation with
    wrapper := { operation.wrapper with qualifiedName := "" }
    result := { operation.result with qualifiedName := "" } }

/-- Two messages of a kind that are the same, but for what a type is called under two namings
where it is declared again, or has simple content besides a parent. -/
inductive Naming.SameMessage (naming naming' : Naming) :
    DiagnosticKind → String → String → Prop where
  | same (kind : DiagnosticKind) (message : String) :
    SameMessage naming naming' kind message message
  | duplicateType (type : ExpandedName) (location : String) :
    SameMessage naming naming' .duplicateTypeDefinition
      ("Type '" ++ naming.qualifiedName type ++ "' in file '" ++ location ++ "' already exists")
      ("Type '" ++ naming'.qualifiedName type ++ "' in file '" ++ location ++ "' already exists")
  | simpleContentParent (type parent : ExpandedName) :
    SameMessage naming naming' .unsupportedSchemaConstruct
      ("Type '" ++ naming.qualifiedName type ++ "' has simple content and cannot also extend '"
        ++ parent.display ++ "'")
      ("Type '" ++ naming'.qualifiedName type ++ "' has simple content and cannot also extend '"
        ++ parent.display ++ "'")

/-- The words for a finding are the same but for such names. -/
theorem Finding.sameBut_diagnostic (finding : Finding) (naming naming' : Naming) :
    Diagnostic.SameBut (naming.SameMessage naming') (finding.diagnostic naming)
      (finding.diagnostic naming') where
  kind := rfl
  file := rfl
  line := rfl
  message := by
    obtain ⟨problem, file, line⟩ := finding
    cases problem with
    | duplicateType type location => exact .duplicateType type location
    | simpleContentParent type parent => exact .simpleContentParent type parent
    | unloaded | nestedComplexType | selfReference | unboundPrefix | unresolvedAttribute |
      enumerationBase | undeclaredReference | inheritanceLoop | unresolvedOperation =>
      exact .same _ _

namespace Leeway

/-- Properties that match are the same. -/
theorem eq_of_property_matches (property property' : Property)
    (h : property.Matches naming property') : property = property' := by
  cases property; cases property'
  simp only [Property.mk.injEq]
  exact ⟨h.name, h.type.symm, h.source, h.nullable.symm, h.restrictions.symm, h.enumeration.symm⟩

theorem eq_of_parameter_matches (parameter parameter' : Parameter)
    (h : parameter.Matches naming parameter') : parameter = parameter' := by
  cases parameter; cases parameter'
  simp only [Parameter.mk.injEq]
  exact ⟨h.name, h.type.symm⟩

theorem eq_of_finding_matches (finding finding' : Finding)
    (h : finding.Matches naming finding') : finding = finding' := by
  cases finding; cases finding'
  simp only [Finding.mk.injEq]
  exact ⟨h.problem, h.file.symm, h.line.symm⟩

/-- Types that match are the same but for their packages. -/
theorem ungrouped_eq (type type' : TypeDescriptor) (h : type.Matches naming type') :
    type'.ungrouped = type.ungrouped := by
  have hproperties : type.properties = type'.properties := by
    simpa using h.properties.imp eq_of_property_matches
  simp only [TypeDescriptor.ungrouped, h.key, h.location, h.name, h.documentation, h.parent,
    hproperties]

/-- And operations but for the full names of their types. -/
theorem unqualified_eq (operation operation' : Operation)
    (h : operation.Matches naming operation') : operation'.unqualified = operation.unqualified := by
  have hparameters : operation.parameters = operation'.parameters := by
    simpa using h.parameters.imp eq_of_parameter_matches
  simp only [Operation.unqualified, h.name, hparameters, h.wrapper.key, h.result.key]

end Leeway

/-- A body is described with the name of values and with nothing else of the options. -/
theorem Declaration.matches_body_naming {config config' : Config}
    (hvalue : config'.valueName = config.valueName) (catalog : Catalog) (schema : Schema)
    (e : Xml.Element) :
    Report.Matches .naming (Body.Matches .naming) (body config catalog schema e)
      (body config' catalog schema e) := by
  have heq : body config' catalog schema e = body config catalog schema e := by
    simp only [body, simpleBody, plainBody, plainMembers, hvalue]
  rw [heq]
  refine Report.matches_self ⟨rfl, ?_⟩
  exact List.forall₂_same.2 fun _ _ => ⟨rfl, rfl, rfl, rfl, rfl, rfl⟩

namespace Session

/-- **Sessions keep step** whatever is asked for, where they call values alike. -/
theorem SameDocuments.matches_naming {session other : Session} (h : SameDocuments session other)
    (hvalue : other.config.valueName = session.config.valueName)
    (hmatches : Matches .naming session other) (l : List Call) :
    Matches .naming (session.calls l) (other.calls l) := by
  induction l generalizing session other with
  | nil => exact hmatches
  | cons c rest ih =>
    refine ih (h.call c) (by rwa [config_call, config_call]) ?_
    refine h.matches_call hmatches hvalue.symm (fun _ => trivial) fun _ declared _ => ?_
    exact Declaration.matches_describeAny (Declaration.Alike.refl _ _ _) (fun _ => trivial)
      (Declaration.matches_body_naming hvalue _ _ _)

/-- **Naming only names.** Let two sessions be asked for the same, whatever the files are at each
call, with options that differ in how namespaces are grouped, in what separates their parts and
in the version of SOAP. Then the calls come to the same on both sides. The types are the same but
for their packages, the operations are the same but for the full names of their types, and as
many diagnostics are made, in the same order, each of the same kind, file and line; and their
messages are the same but for the full name of a type that is declared again, or that has simple
content besides a parent. -/
theorem naming_only_names (config : Config) (hierarchical : Bool) (separator : String)
    (soapVersion : SoapVersion) (l : List Call) :
    let config' := { config with hierarchical, separator, soapVersion }
    let session := (Session.new config).calls l
    let other := (Session.new config').calls l
    (Session.new config').results l = (Session.new config).results l ∧
      other.types.mapValues TypeDescriptor.ungrouped
        = session.types.mapValues TypeDescriptor.ungrouped ∧
      other.operations.map Operation.unqualified
        = session.operations.map Operation.unqualified ∧
      List.Forall₂ (Diagnostic.SameBut (config.naming.SameMessage config'.naming))
        session.diagnostics other.diagnostics := by
  intro config' session other
  have hnew : SameDocuments (Session.new config) (Session.new config') := ⟨rfl, rfl⟩
  have hmatches : Matches .naming session other :=
    hnew.matches_naming rfl (matches_new _ config config') l
  refine ⟨hnew.results_eq l, hmatches.types.mapValues_eq Leeway.ungrouped_eq,
    Leeway.map_eq_of_forall₂ Leeway.unqualified_eq hmatches.operations, ?_⟩
  -- What is noted is the same; only the words for it may differ.
  have hfindings : session.findings = other.findings := by
    simpa using hmatches.findings.imp Leeway.eq_of_finding_matches
  rw [diagnostics, diagnostics, ← hfindings, config_calls, config_calls,
    List.forall₂_map_left_iff, List.forall₂_map_right_iff]
  exact List.forall₂_same.2 fun finding _ => finding.sameBut_diagnostic _ _

end Session

end WsdlTypes
