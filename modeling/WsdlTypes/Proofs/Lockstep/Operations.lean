import WsdlTypes.Proofs.Lockstep.Types
import WsdlTypes.Proofs.References
import WsdlTypes.Proofs.Service
/-!
# Checks and operations in step

Over maps that match the check of references finds the same to be missing and the same loops
(`matches_check`), and a type inherits matching properties, which make parameters of the same
types under matching names (`Matches.flatten`). An operation asks the catalog for the elements
that its messages wrap and the map for their types (`directionType_eq`), so operations that ask
for the same elements keep step (`matches_operationsOf`).
-/

namespace WsdlTypes

/-- Two parameters of one type under matching names. -/
structure Parameter.Matches (d : Leeway) (parameter parameter' : Parameter) : Prop where
  name : d.called parameter.name parameter'.name
  type : parameter'.type = parameter.type

/-- Two references to one type. -/
structure TypeReference.Matches (d : Leeway) (reference reference' : TypeReference) : Prop where
  key : reference'.key = reference.key
  qualifiedName : d.known reference.qualifiedName reference'.qualifiedName

/-- Two operations of one name with matching parameters, over the same types. -/
structure Operation.Matches (d : Leeway) (operation operation' : Operation) : Prop where
  name : operation'.name = operation.name
  parameters : List.Forall₂ (Parameter.Matches d) operation.parameters operation'.parameters
  wrapper : operation.wrapper.Matches d operation'.wrapper
  result : operation.result.Matches d operation'.result

/-- Operations fail for causes that may stand for one another. -/
def Leeway.failed (d : Leeway) (cause cause' : OperationError) : Prop :=
  d.reported (.unresolvedOperation cause) (.unresolvedOperation cause')

theorem Leeway.failed_refl (d : Leeway) (cause : OperationError) : d.failed cause cause :=
  d.reported_refl _

/-! ## Checks -/

namespace References

variable {d : Leeway} {types types' : TypeMap} {type type' : TypeDescriptor}

/-- Two references to one name, by those who are called alike. -/
def SameTarget (d : Leeway) (reference reference' : String × ExpandedName) : Prop :=
  (reference'.1 = reference.1 ∨ d.called reference.1 reference'.1) ∧ reference'.2 = reference.2

/-- Matching types refer to the same. -/
theorem matches_ofType (h : type.Matches d type') :
    List.Forall₂ (SameTarget d) (ofType type) (ofType type') := by
  unfold ofType
  rw [h.parent]
  refine List.rel_append (List.forall₂_same.2 fun _ _ => ⟨Or.inl rfl, rfl⟩) ?_
  refine List.rel_filterMap (fun property property' hproperty => ?_) h.properties
  rw [hproperty.type]
  cases property.type.reference? with
  | none => exact .none
  | some target => exact .some ⟨Or.inr hproperty.name, rfl⟩

theorem matches_missing (htypes : types.Matches d types') (h : type.Matches d type') :
    List.Forall₂ (SameTarget d) (missing types type) (missing types' type') := by
  refine List.rel_filter (fun reference reference' href => ?_) (matches_ofType h)
  simp only [decide_eq_true_iff, href.2, htypes.mem_keys_iff]

/-- What is missing is reported alike. -/
theorem matches_undeclared (h : type.Matches d type')
    {reference reference' : String × ExpandedName} (href : SameTarget d reference reference') :
    Finding.Matches d (undeclared type reference) (undeclared type' reference') where
  problem := by
    obtain ⟨hcalled, htarget⟩ := href
    simp only [undeclared, htarget, h.name]
    rcases hcalled with heq | hcalled
    · rw [heq]
      exact d.reported_refl _
    · exact d.reported_undeclaredReference hcalled _ _
  file := h.location
  line := rfl

end References

namespace TypeMap

variable {d : Leeway} {types types' : TypeMap} {type type' : TypeDescriptor}

/-- The ways up are the same, and so are the loops. -/
theorem Matches.cycleFrom?_eq (h : types.Matches d types') (visited : List ExpandedName)
    (key : ExpandedName) : types'.cycleFrom? visited key = types.cycleFrom? visited key := by
  induction visited, key using cycleFrom?.induct types with
  | case1 visited key hmem => rw [cycleFrom?_of_mem hmem, cycleFrom?_of_mem hmem]
  | case2 visited key hnew hparent =>
    have hparent' : types'.parent? key = none := (h.parent?_eq key).trans hparent
    rw [cycleFrom?_of_parent?_eq_none hnew hparent, cycleFrom?_of_parent?_eq_none hnew hparent']
  | case3 visited key hnew parent hparent ih =>
    have hparent' : types'.parent? key = some parent := (h.parent?_eq key).trans hparent
    rw [cycleFrom?_of_parent?_eq_some hnew hparent, cycleFrom?_of_parent?_eq_some hnew hparent',
      ih]

end TypeMap

namespace References

variable {d : Leeway} {types types' : TypeMap} {type type' : TypeDescriptor} {key : ExpandedName}

theorem matches_checkType (htypes : types.Matches d types') (h : type.Matches d type') :
    List.Forall₂ (Finding.Matches d) (checkType types key type).findings
      (checkType types' key type').findings := by
  have hloops : types'.parentCycle? key = types.parentCycle? key := htypes.cycleFrom?_eq [] key
  rw [findings_checkType, findings_checkType, hloops]
  refine List.rel_append ?_ ?_
  · exact List.rel_map (fun _ _ href => matches_undeclared h href) (matches_missing htypes h)
  · refine List.rel_map (R := Eq) (fun again again' heq => ?_) (by simp)
    subst heq
    refine ⟨?_, h.location, rfl⟩
    rw [loop, loop, h.name]
    exact d.reported_refl _

/-- **The check of the same names finds the same.** -/
theorem matches_check (htypes : types.Matches d types') (keys : List ExpandedName) :
    List.Forall₂ (Finding.Matches d) (check types keys).findings (check types' keys).findings := by
  rw [findings_check, findings_check]
  refine List.rel_flatMap (R := Eq) (by simp) fun key key' heq => ?_
  subst heq
  cases hget : types.get? key with
  | none =>
    rw [htypes.get?_eq_none hget]
    exact .nil
  | some type =>
    obtain ⟨type', hget', htype⟩ := htypes.get? hget
    rw [hget', Option.toList_some, Option.toList_some, List.flatMap_singleton,
      List.flatMap_singleton]
    exact matches_checkType htypes htype

end References

/-! ## Parameters -/

namespace TypeMap

variable {d : Leeway} {types types' : TypeMap} {type type' : TypeDescriptor}

theorem Matches.ancestryFrom (h : types.Matches d types') {all all' visited : List ExpandedName}
    (htype : type.Matches d type') (hall : type.key ∈ all) (hall' : type'.key ∈ all')
    (hvalues : ∀ t ∈ types.values, t.key ∈ all) (hvalues' : ∀ t ∈ types'.values, t.key ∈ all') :
    Agree Eq (List.Forall₂ (TypeDescriptor.Matches d))
      (types.ancestryFrom all visited type hall hvalues)
      (types'.ancestryFrom all' visited type' hall' hvalues') := by
  induction visited, type, hall using ancestryFrom.induct types all hvalues
    generalizing type' with
  | case1 visited type hall hmem =>
    have hmem' : type'.key ∈ visited := htype.key ▸ hmem
    rw [ancestryFrom_of_mem hmem, ancestryFrom_of_mem hmem', htype.key]
    exact .error rfl
  | case2 visited type hall hnew hparent =>
    have hnew' : type'.key ∉ visited := htype.key ▸ hnew
    rw [ancestryFrom_of_parent_eq_none hnew hparent,
      ancestryFrom_of_parent_eq_none hnew' (htype.parent.trans hparent)]
    exact .ok (.cons htype .nil)
  | case3 visited type hall hnew parent hparent hget =>
    have hnew' : type'.key ∉ visited := htype.key ▸ hnew
    rw [ancestryFrom_of_get?_eq_none hnew hparent hget,
      ancestryFrom_of_get?_eq_none hnew' (htype.parent.trans hparent) (h.get?_eq_none hget)]
    exact .error rfl
  | case4 visited type hall hnew parent hparent next hget ih =>
    have hnew' : type'.key ∉ visited := htype.key ▸ hnew
    obtain ⟨next', hget', hnext⟩ := h.get? hget
    rw [ancestryFrom_of_get?_eq_some hnew hparent hget,
      ancestryFrom_of_get?_eq_some hnew' (htype.parent.trans hparent) hget']
    have hrest := ih hnext (hvalues' _ (mem_values_of_get? hget'))
    rw [htype.key]
    exact hrest.map fun _ _ hchain => .cons htype hchain

theorem matches_addParameter {parameters parameters' : List Parameter}
    {property property' : Property}
    (h : List.Forall₂ (Parameter.Matches d) parameters parameters')
    (hproperty : property.Matches d property') :
    List.Forall₂ (Parameter.Matches d) (addParameter parameters property)
      (addParameter parameters' property') := by
  have hany : (parameters'.any fun parameter => parameter.name = property'.name)
      = parameters.any fun parameter => parameter.name = property.name := by
    induction h with
    | nil => rfl
    | cons hfirst _ ih =>
      rw [List.any_cons, List.any_cons, ih,
        decide_eq_decide.2 (d.called_iff hfirst.name hproperty.name)]
  unfold addParameter
  rw [hany]
  split
  · exact h
  · exact List.rel_append h (.cons ⟨hproperty.name, hproperty.type⟩ .nil)

/-- **Matching types have matching parameters**, or the way up ends alike for both. -/
theorem Matches.flatten (h : types.Matches d types') (htype : type.Matches d type') :
    Agree Eq (List.Forall₂ (Parameter.Matches d)) (types.flatten type) (types'.flatten type') := by
  unfold TypeMap.flatten ancestry
  refine (h.ancestryFrom htype _ _ _ _).map fun chain chain' hchain => ?_
  have hproperties : List.Forall₂ (Property.Matches d)
      (chain.flatMap TypeDescriptor.properties) (chain'.flatMap TypeDescriptor.properties) :=
    List.rel_flatMap hchain fun _ _ hmember => hmember.properties
  exact List.rel_foldl (R := Property.Matches d)
    (fun _ _ hparameters _ _ hproperty => matches_addParameter hparameters hproperty) .nil
    hproperties

end TypeMap

/-! ## Operations -/

namespace Service

variable {d : Leeway} {naming naming' : Naming} {catalog catalog' : Catalog}
variable {types types' : TypeMap} {definitions definitions' : Definitions} {e e' : Xml.Element}

/-- The name of the element that a message wraps. -/
def messageElement (catalog : Catalog) (message : ExpandedName) :
    Except OperationError ExpandedName :=
  match catalog.message? message with
  | none => .error (.unknownMessage message)
  | some (definitions, e) =>
    match e.child? wsdlUri "part" with
    | none => .error (.noPart message)
    | some part =>
      match part.attribute? "element" with
      | none => .error (.partWithoutElement message)
      | some element => expand definitions part element

/-- The name of the element that goes in one direction. -/
def directionElement (catalog : Catalog) (definitions : Definitions) (operation : Xml.Element)
    (name : String) (direction : Direction) : Except OperationError ExpandedName := do
  let (reference, message) ← messageName operation name direction
  messageElement catalog (← expand definitions reference message)

/-- The type of a name, where there is one. -/
def typeOf (types : TypeMap) (key : ExpandedName) : Except OperationError TypeDescriptor :=
  match types.get? key with
  | some type => .ok type
  | none => .error (.unknownType key)

theorem messageType_eq (message : ExpandedName) :
    messageType catalog types message = messageElement catalog message >>= typeOf types := by
  unfold messageType messageElement
  cases catalog.message? message with
  | none => rfl
  | some found =>
    obtain ⟨declaring, e⟩ := found
    cases hpart : e.child? wsdlUri "part" with
    | none => simp only [hpart]; rfl
    | some part =>
      cases helement : part.attribute? "element" with
      | none => simp only [hpart, helement]; rfl
      | some element => simp only [hpart, helement]; rfl

/-- **An operation asks the catalog for elements and the map for their types.** -/
theorem directionType_eq (name : String) (direction : Direction) :
    directionType catalog types definitions e name direction
      = directionElement catalog definitions e name direction >>= typeOf types := by
  unfold directionType directionElement
  cases messageName e name direction with
  | error cause => rfl
  | ok found =>
    obtain ⟨reference, message⟩ := found
    simp only [bind, Except.bind]
    cases expand definitions reference message with
    | error cause => rfl
    | ok key => exact messageType_eq key

theorem agree_typeOf (htypes : types.Matches d types') (key : ExpandedName) :
    Agree Eq (TypeDescriptor.Matches d) (typeOf types key) (typeOf types' key) := by
  unfold typeOf
  cases hget : types.get? key with
  | none =>
    rw [htypes.get?_eq_none hget]
    exact .error rfl
  | some type =>
    obtain ⟨type', hget', htype⟩ := htypes.get? hget
    rw [hget']
    exact .ok htype

/-- Two elements at one place that declare operations of one name, and whose messages wrap the
same elements. -/
structure SameOperation (d : Leeway) (catalog catalog' : Catalog)
    (definitions definitions' : Definitions) (e e' : Xml.Element) : Prop where
  line : e'.line = e.line
  name : e'.attribute? "name" = e.attribute? "name"
  element (name : String) (direction : Direction) : Agree d.failed Eq
    (directionElement catalog definitions e name direction)
    (directionElement catalog' definitions' e' name direction)

/-- Two service descriptions at one place, with the same operations. -/
structure SameOperations (d : Leeway) (catalog catalog' : Catalog)
    (definitions definitions' : Definitions) : Prop where
  location : definitions'.location = definitions.location
  operations : List.Forall₂ (SameOperation d catalog catalog' definitions definitions')
    (operationElements definitions) (operationElements definitions')

theorem SameOperations.refl (d : Leeway) (catalog : Catalog) (definitions : Definitions) :
    SameOperations d catalog catalog definitions definitions :=
  ⟨rfl, List.forall₂_same.2 fun _ _ =>
    ⟨rfl, rfl, fun _ _ => Agree.refl d.failed_refl (fun _ => rfl) _⟩⟩

theorem agree_directionType (htypes : types.Matches d types')
    (h : SameOperation d catalog catalog' definitions definitions' e e') (name : String)
    (direction : Direction) :
    Agree d.failed (TypeDescriptor.Matches d)
      (directionType catalog types definitions e name direction)
      (directionType catalog' types' definitions' e' name direction) := by
  rw [directionType_eq, directionType_eq]
  refine (h.element name direction).bind fun key key' hkey => ?_
  subst hkey
  exact (agree_typeOf htypes key).imp (fun cause _ heq => heq ▸ d.failed_refl cause) fun _ _ h => h

variable (hknown : ∀ key, d.known (naming.qualifiedName key) (naming'.qualifiedName key))

include hknown in
/-- **Operations over the same elements match**, or both cannot be resolved. -/
theorem agree_operation (htypes : types.Matches d types')
    (h : SameOperation d catalog catalog' definitions definitions' e e') :
    Agree d.failed (Operation.Matches d) (operation naming catalog types definitions e)
      (operation naming' catalog' types' definitions' e') := by
  have hreference : ∀ type type' : TypeDescriptor, type.Matches d type' →
      (reference naming type).Matches d (reference naming' type') := fun type type' htype =>
    ⟨htype.key, by simp only [reference, htype.key]; exact hknown _⟩
  unfold operation
  rw [h.name]
  cases e.attribute? "name" with
  | none => exact .error (d.failed_refl _)
  | some name =>
    refine (agree_directionType htypes h name .input).bind fun input input' hinput => ?_
    refine (agree_directionType htypes h name .output).bind fun output output' houtput => ?_
    refine ((htypes.flatten hinput).imp (fun cause _ heq => heq ▸ d.failed_refl cause)
      fun _ _ hparameters => hparameters).bind fun parameters parameters' hparameters => ?_
    exact .ok ⟨rfl, hparameters, hreference _ _ hinput, hreference _ _ houtput⟩

include hknown in
theorem matches_reportedOperation (htypes : types.Matches d types')
    (hlocation : definitions'.location = definitions.location)
    (h : SameOperation d catalog catalog' definitions definitions' e e') :
    Report.Matches d (Option.Rel (Operation.Matches d))
      (reportedOperation naming catalog types definitions e)
      (reportedOperation naming' catalog' types' definitions' e') := by
  have hagree := agree_operation hknown htypes h
  unfold reportedOperation
  generalize operation naming catalog types definitions e = outcome,
    operation naming' catalog' types' definitions' e' = outcome' at hagree
  cases hagree with
  | ok hop => exact Report.matches_pure (.some hop)
  | error hcause =>
    rw [hlocation, h.line]
    exact (Report.matches_finding hcause _ _).bind fun _ _ _ => Report.matches_pure .none

include hknown in
/-- **The operations of some documents keep step.** -/
theorem matches_operationsOf (htypes : types.Matches d types') {order : List Nat}
    (h : List.Forall₂ (SameOperations d catalog catalog') (catalog.definitionsOf order)
      (catalog'.definitionsOf order)) :
    Report.Matches d (List.Forall₂ (Operation.Matches d))
      (operationsOf naming catalog types order) (operationsOf naming' catalog' types' order) := by
  unfold operationsOf operations
  refine (Report.matches_each (h.imp fun definitions definitions' hsame => ?_)).map
    fun _ _ hall => List.rel_flatten hall
  refine (Report.matches_each (hsame.operations.imp fun e e' hop => ?_)).map
    fun _ _ hall => Leeway.rel_reduceOption hall
  exact matches_reportedOperation hknown htypes hsame.location hop

end Service

end WsdlTypes
