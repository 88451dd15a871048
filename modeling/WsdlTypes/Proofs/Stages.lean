import WsdlTypes.Proofs.Report
import WsdlTypes.Proofs.Traversal.Move
import WsdlTypes.Proofs.Walk.Declarations
import WsdlTypes.References
import WsdlTypes.Service
/-!
# Every stage reports problems of its own

A resolution goes through four stages: documents are brought in, declarations are described,
references are checked, operations are resolved. What a stage reports tells which one it was:
what is reported while documents come in is that one could not be brought in
(`about_run`); no description of a declaration, however deep the members and simple types in
it, reports a missing type or a loop (`about_documents`), which is what the check of
references reports (`about_check`); and the rest is about operations (`about_operationsOf`).
Nor does the description of a declaration report that its name is taken (`about_describeAny`): this
is noticed where the descriptor is entered. And its content reports nothing about the type that it
is the content of (`about_body`): this is noticed once the body is there. Of a content in turn, what
is not about attributes does not report one that cannot be found (`about_contentValue`).
-/

namespace WsdlTypes

/-- The stages of a resolution. -/
inductive Stage where
  | arrival
  | description
  | reference
  | operation
deriving DecidableEq

/-- The stage that a problem is met in. -/
def Problem.stage : Problem → Stage
  | unloaded _ => .arrival
  | nestedComplexType _ | selfReference .. | unboundPrefix .. | unresolvedAttribute _ |
    enumerationBase _ | duplicateType .. | simpleContentParent .. => .description
  | undeclaredReference .. | inheritanceLoop .. => .reference
  | unresolvedOperation _ => .operation

/-- Every problem reported was met in a stage. -/
abbrev Report.During {α : Type} (stage : Stage) (r : Report α) : Prop :=
  r.About fun problem => problem.stage = stage

/-- Whether a problem is met where a name or a simple type is read. -/
def Problem.ofValue : Problem → Bool
  | unboundPrefix .. | enumerationBase _ => true
  | _ => false

/-- Every problem reported was met where names and simple types are read. -/
abbrev Report.OfValue {α : Type} (r : Report α) : Prop :=
  r.About fun problem => problem.ofValue = true

/-- Whether a problem is met in the content of a declaration. -/
def Problem.ofContent : Problem → Bool
  | unboundPrefix .. | unresolvedAttribute _ | enumerationBase _ => true
  | _ => false

/-- Every problem reported was met in the content of a declaration. -/
abbrev Report.OfContent {α : Type} (r : Report α) : Prop :=
  r.About fun problem => problem.ofContent = true

/-- Whether a problem is met in a declaration by itself, and not where another one of its name
is. -/
def Problem.ofDeclaration : Problem → Bool
  | nestedComplexType _ | selfReference .. | unboundPrefix .. | unresolvedAttribute _ |
    enumerationBase _ => true
  | _ => false

/-- Every problem reported was met in a declaration. -/
abbrev Report.OfDeclaration {α : Type} (r : Report α) : Prop :=
  r.About fun problem => problem.ofDeclaration = true

theorem Report.OfValue.ofContent {α : Type} {r : Report α} (h : r.OfValue) : r.OfContent :=
  h.mono fun problem hproblem => by
    cases problem <;> simp [Problem.ofValue] at hproblem <;> rfl

theorem Report.OfContent.ofDeclaration {α : Type} {r : Report α} (h : r.OfContent) :
    r.OfDeclaration :=
  h.mono fun problem hproblem => by
    cases problem <;> simp [Problem.ofContent] at hproblem <;> rfl

theorem Report.OfDeclaration.during {α : Type} {r : Report α} (h : r.OfDeclaration) :
    r.During .description :=
  h.mono fun problem hproblem => by
    cases problem <;> simp [Problem.ofDeclaration] at hproblem <;> rfl

/-- What a stage reports is all that is reported in it. -/
theorem Report.During.filter_eq_self {α : Type} {stage : Stage} {r : Report α}
    (h : r.During stage) :
    r.findings.filter (fun finding => finding.problem.stage = stage) = r.findings := by
  rw [List.filter_eq_self]
  intro finding hmem
  simpa using h finding hmem

/-- And nothing to another one. -/
theorem Report.During.filter_eq_nil {α : Type} {stage other : Stage} {r : Report α}
    (h : r.During stage) (hne : stage ≠ other) :
    r.findings.filter (fun finding => finding.problem.stage = other) = [] := by
  rw [List.filter_eq_nil_iff]
  intro finding hmem
  rw [h finding hmem]
  simpa using hne

open Report (about_pure about_finding about_each about_fold)

/-! ## Names and simple types -/

section

variable (config : Config) (catalog : Catalog) (schema : Schema) (e : Xml.Element)

theorem Schema.about_report {P : Problem → Prop} {problem : Problem} (h : P problem) :
    (schema.report e problem).About P := about_finding h _ _

theorem Schema.about_expand (qname : String) : (schema.expand e qname).OfValue := by
  unfold Schema.expand
  split
  · exact about_pure _
  · exact (schema.about_report e (by rfl)).bind fun _ => about_pure _

theorem Schema.about_typeName (qname : String) :
    (schema.typeName e qname).OfValue := (schema.about_expand e qname).map _

theorem Catalog.about_scalarBase (visited : List ExpandedName) (key : ExpandedName) :
    (catalog.scalarBase visited key).OfValue := by
  induction visited, key using scalarBase.induct catalog with
  | case1 visited key huri =>
    rw [scalarBase, if_pos huri]
    exact about_pure _
  | case2 visited key huri hmem =>
    rw [scalarBase, if_neg huri, dif_pos hmem]
    exact about_pure _
  | case3 visited key huri hnew hnone =>
    rw [scalarBase, if_neg huri, dif_neg hnew]
    split
    · exact about_pure _
    · rename_i heq
      rw [hnone] at heq
      cases heq
  | case4 visited key huri hnew schema simpleType hfound hbase =>
    rw [scalarBase, if_neg huri, dif_neg hnew]
    split
    · exact about_pure _
    · rename_i heq
      rw [hfound] at heq
      cases heq
      rw [hbase]
      exact about_pure _
  | case5 visited key huri hnew schema simpleType hfound restriction base hbase ih =>
    rw [scalarBase, if_neg huri, dif_neg hnew]
    split
    · exact about_pure _
    · rename_i heq
      rw [hfound] at heq
      cases heq
      rw [hbase]
      exact (schema.about_expand restriction base).bind ih

namespace SimpleType

theorem about_enumerationType (type : ResolvedType) :
    (enumerationType catalog schema e type).OfValue := by
  cases type with
  | scalar | array => exact about_pure _
  | reference base =>
    refine (catalog.about_scalarBase [] base).bind fun kind => ?_
    split
    · exact about_pure _
    · exact (schema.about_report e (by rfl)).bind fun _ => about_pure _

theorem about_withFacets (property : Property) :
    (withFacets catalog schema e property).OfValue := by
  unfold withFacets
  split
  · exact about_pure _
  · exact (about_enumerationType catalog schema e _).bind fun _ => about_pure _

variable (name : String) {inner : Report (Option Property)}

theorem about_ofBase (hinner : inner.OfValue) :
    (ofBase schema name e inner).OfValue := by
  unfold ofBase
  split
  · exact (schema.about_typeName e _).bind fun _ => about_pure _
  · refine hinner.bind fun base => ?_
    split <;> exact about_pure _

theorem about_restricted (hinner : inner.OfValue) :
    (restricted catalog schema name e inner).OfValue :=
  (about_ofBase schema e name hinner).bind (about_withFacets catalog schema e)

theorem about_listed (hinner : inner.OfValue) :
    (listed schema name e inner).OfValue := by
  unfold listed
  split
  · exact (schema.about_typeName e _).bind fun _ => about_pure _
  · exact hinner.bind fun _ => about_pure _

/-- **A simple type, whatever it is derived from**, reports problems of values. -/
theorem about_property? (e : Xml.Element) :
    (property? catalog schema name e).OfValue := by
  induction e using property?.induct catalog schema name with
  | case1 e hnone =>
    rw [property?]
    split
    · exact about_pure _
    · rename_i heq
      rw [hnone] at heq
      cases heq
  | case2 e derivation hderivation ih =>
    rw [property?]
    split
    · exact about_pure _
    · rename_i heq
      rw [hderivation] at heq
      cases heq
      refine Report.About.map ?_ _
      split
      · exact about_restricted catalog schema derivation name ih
      · split
        · exact about_listed schema derivation name ih
        · exact about_pure _

end SimpleType

/-! ## Members and declarations -/

namespace Member

theorem about_ofDeclaration : (ofDeclaration catalog schema e).OfValue := by
  unfold ofDeclaration
  split
  · exact (schema.about_typeName e _).bind fun _ => about_pure _
  · exact (SimpleType.about_property? catalog schema _ e).bind fun _ => about_pure _

theorem about_ofElement : (ofElement catalog schema e).OfValue := by
  refine Report.About.bind ?_ fun _ => about_pure _
  unfold ofSingleElement
  split
  · exact (schema.about_expand e _).bind fun _ => about_pure _
  · exact about_ofDeclaration catalog schema e

theorem about_ofAttribute : (ofAttribute catalog schema e).OfContent := by
  unfold ofAttribute
  split
  · refine (schema.about_expand e _).ofContent.bind fun key => ?_
    split
    · exact (about_ofDeclaration catalog _ _).ofContent.map _
    · split
      · exact about_pure _
      · exact (schema.about_report e (by rfl)).bind fun _ => about_pure _
  · exact (about_ofDeclaration catalog schema e).ofContent.map _

theorem about_elements : (elements catalog schema e).OfValue :=
  about_each fun e _ => about_ofElement catalog schema e

theorem about_attributes : (attributes catalog schema e).OfContent :=
  (about_each fun e _ => about_ofAttribute catalog schema e).map _

end Member

namespace Declaration

/-- The value of a simple content is none of the attributes. -/
theorem about_contentValue (name : String) : (contentValue catalog schema name e).OfValue := by
  unfold contentValue
  split
  · exact SimpleType.about_restricted catalog schema e _
      (SimpleType.about_property? catalog schema _ e)
  · exact SimpleType.about_ofBase schema e _ (about_pure _)

theorem about_simpleBody : (simpleBody config catalog schema e).OfContent := by
  unfold simpleBody
  split
  · exact about_pure _
  · rename_i derivation _
    exact (about_contentValue catalog schema derivation _).ofContent.bind fun _ =>
      (Member.about_attributes catalog schema derivation).bind fun _ => about_pure _

theorem about_extended? : (extended? schema e).OfValue := by
  unfold extended?
  split
  · exact about_pure _
  · split
    · exact about_pure _
    · refine (schema.about_typeName _ _).bind fun type => ?_
      split <;> exact about_pure _

theorem about_complexBody : (complexBody catalog schema e).OfContent :=
  (about_extended? schema e).ofContent.bind fun _ =>
    (Member.about_elements catalog schema e).ofContent.bind fun _ =>
      (Member.about_attributes catalog schema e).bind fun _ => about_pure _

theorem about_plainBody : (plainBody config catalog schema e).OfContent := by
  have hmembers : (plainMembers config catalog schema e).OfValue := by
    refine (Member.about_elements catalog schema e).bind fun elements => ?_
    split
    · exact (SimpleType.about_property? catalog schema _ e).bind fun _ => about_pure _
    · exact about_pure _
  exact hmembers.ofContent.bind fun _ =>
    (Member.about_attributes catalog schema e).bind fun _ => about_pure _

theorem about_body : (body config catalog schema e).OfContent := by
  unfold body
  split
  · exact about_simpleBody config catalog schema _
  · split
    · exact about_complexBody catalog schema _
    · exact about_plainBody config catalog schema e

theorem about_describe (name : String) :
    (describe config catalog schema e name).OfDeclaration := by
  unfold describe
  split
  · exact (schema.about_report e (by rfl)).bind fun _ => about_pure _
  · refine (about_body config catalog schema e).ofDeclaration.bind fun body => ?_
    refine Report.About.bind ?_ fun _ => about_pure _
    exact (about_each fun _ _ => schema.about_report e (by rfl)).bind fun _ => about_pure _

theorem about_describeElement : (describeElement config catalog schema e).OfDeclaration := by
  unfold describeElement
  split
  · exact about_pure _
  · exact (about_describe config catalog schema e _).map _
  · split
    · exact (about_describe config catalog schema e _).map _
    · refine (schema.about_typeName e _).ofContent.ofDeclaration.bind fun type => ?_
      split
      · exact about_pure _
      · split <;> exact about_pure _

theorem about_describeAny : (describeAny config catalog schema e).OfDeclaration := by
  unfold describeAny
  split
  · exact about_describeElement config catalog schema e
  · unfold describeType
    split
    · exact about_pure _
    · exact (about_describe config catalog schema e _).map _

end Declaration

/-! ## The stages -/

/-- **A walk reports problems of descriptions.** -/
theorem Walk.about_documents (types : TypeMap) (order : List Nat) :
    (Walk.documents config catalog types order).During .description := by
  rw [documents_eq_fold]
  refine about_fold (fun walk d _ => ?_) _
  refine (Declaration.about_describeAny config catalog d.1 d.2).during.bind fun described => ?_
  split
  · rename_i type
    unfold enter
    split
    · exact about_pure _
    · rename_i older _
      refine (d.1.about_report d.2 (by rfl)).bind fun _ => ?_
      refine Report.About.bind ?_ fun _ => about_pure _
      unfold dropParent
      split
      · exact (d.1.about_report d.2 (by rfl)).bind fun _ => about_pure _
      · exact about_pure _
  · exact about_pure _

end

/-- **A check of references** reports missing types and loops. -/
theorem References.about_check (types : TypeMap) (keys : List ExpandedName) :
    (References.check types keys).During .reference := by
  refine Report.About.bind (about_each fun key _ => ?_) fun _ => about_pure _
  split
  · refine Report.About.bind (about_each fun (_, _) _ => about_finding (by rfl) _ _) fun _ => ?_
    split
    · exact about_finding (by rfl) _ _
    · exact about_pure _
  · exact about_pure _

/-- **Resolving operations** reports those that cannot be resolved. -/
theorem Service.about_operationsOf (naming : Naming) (catalog : Catalog) (types : TypeMap)
    (order : List Nat) :
    (operationsOf naming catalog types order).During .operation := by
  refine (about_each fun definitions _ => Report.About.map ?_ _).map _
  refine about_each fun e _ => ?_
  unfold reportedOperation
  split
  · exact about_pure _
  · exact (about_finding (by rfl) _ _).bind fun _ => about_pure _

/-- **Bringing documents in** reports those that cannot be brought in. -/
theorem Traversal.about_run (tree : File.Tree) {t : Traversal}
    (h : ∀ finding ∈ t.findings, finding.problem.stage = .arrival) :
    ∀ finding ∈ (Traversal.run tree t).findings, finding.problem.stage = .arrival := by
  refine run_induction (P := fun t =>
    ∀ finding ∈ t.findings, finding.problem.stage = .arrival) (fun hmove h => ?_) h
  cases hmove with
  | leave | enter | pass => exact h
  | fail =>
    intro finding hfinding
    rcases List.mem_append.1 hfinding with hfinding | hfinding
    · exact h finding hfinding
    · rw [List.mem_singleton.1 hfinding]
      rfl

end WsdlTypes
