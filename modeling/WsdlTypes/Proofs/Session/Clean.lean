import WsdlTypes.Proofs.Catalog
import WsdlTypes.Proofs.References
import WsdlTypes.Proofs.Service
import WsdlTypes.Proofs.Session.Order
import WsdlTypes.Proofs.Walk.Types
/-!
# Sessions that reported nothing

The check of references looks at what is new, and operations are resolved against the types
that there are at the time. In a session that reported nothing no declaration was merged into
an older one, so what a call found right is right for good: the types of a silent session
refer to types of the session, no way up from them meets a name twice, and the operations are
what their elements come to, now (`Settled`). Every call that reports nothing keeps this
(`settled_call`), so it holds of every session without errors (`clean_calls`).
-/

namespace WsdlTypes

namespace Session

variable {session : Session} {c : Call}

/-- A session whose types are complete and whose operations are what their elements come to. -/
structure Settled (session : Session) : Prop where
  numbered : session.library.Numbered
  keyed : session.types.Keyed
  closed : session.types.Closed
  acyclic : session.types.Acyclic
  resolved : (session.operations.map Except.ok).Perm
    (Service.outcomes session.config.naming session.catalog session.types
      session.catalog.definitions)

theorem settled_new (config : Config) : (Session.new config).Settled where
  numbered := numbered_new config
  keyed := TypeMap.keyed_empty
  closed := TypeMap.closed_empty
  acyclic key path hpath := by
    rw [hpath.eq_nil List.not_mem_nil]
    simp
  resolved := List.Perm.refl _

/-- Where every operation is what an element comes to, every element comes to one. -/
theorem Settled.exists_eq_ok (h : session.Settled) :
    ∀ outcome ∈ Service.outcomes session.config.naming session.catalog session.types
      session.catalog.definitions, ∃ op, outcome = .ok op := by
  intro outcome hmem
  obtain ⟨op, -, heq⟩ := List.mem_map.1 (h.resolved.mem_iff.2 hmem)
  exact ⟨op, heq.symm⟩

/-- The descriptions that came with a traversal stand behind the older ones. -/
theorem definitions_arrived {t : Traversal} {fresh : List Document}
    (hdocuments : t.library.documents = session.library.documents ++ fresh) :
    (session.arrived t).catalog.definitions
      = session.catalog.definitions ++ fresh.flatMap Definitions.ofDocument := by
  show t.library.documents.flatMap Definitions.ofDocument = _
  rw [hdocuments, List.flatMap_append]
  rfl

/-- **Taking in what came leaves a session settled** when nothing is reported. -/
theorem Settled.takeIn (h : session.Settled) {t : Traversal} {fresh : List Document}
    {order : List Nat} (hnumbered : t.library.Numbered)
    (hdocuments : t.library.documents = session.library.documents ++ fresh)
    (hperm : order.Perm (fresh.map Document.id))
    (hclean : ((session.arrived t).takeIn order).findings = []) :
    ((session.arrived t).takeIn order).Settled := by
  rw [findings_takeIn, List.append_eq_nil_iff, List.append_eq_nil_iff,
    List.append_eq_nil_iff] at hclean
  obtain ⟨-, hwalk, hcheck, hoperations⟩ := hclean
  -- Nothing was merged, and what is new was checked.
  have hwithin : session.types.Within ((session.arrived t).walk order).value.types :=
    Walk.within_documents hwalk
  have hsound : Walk.Sound session.types ((session.arrived t).walk order).value :=
    Walk.sound_documents h.keyed order
  have hfresh : ∀ key ∈ ((session.arrived t).walk order).value.types.keys,
      key ∉ session.types.keys → key ∈ ((session.arrived t).walk order).value.fresh :=
    fun key hkey hnew => (hsound.fresh key).2 ⟨hkey, hnew⟩
  refine {
    numbered := hnumbered
    keyed := hsound.keyed
    closed := h.closed.of_within hwithin hfresh hcheck
    acyclic := h.acyclic.of_within h.closed hwithin hfresh hcheck
    resolved := ?_ }
  -- The operations that there were are the same against more types and documents.
  have hmore := definitions_arrived hdocuments
  have hold := Service.outcomes_of_within hmore hwithin h.exists_eq_ok
  have hnew : (((session.arrived t).catalog).definitionsOf order).Perm
      (fresh.flatMap Definitions.ofDocument) :=
    Catalog.definitionsOf_perm hnumbered.nodup_ids
      (by rw [library_arrived, hdocuments]; exact List.subset_append_right _ _) hperm
  rw [operations_takeIn, List.map_append, Service.map_ok_operationsOf hoperations,
    catalog_takeIn, types_takeIn, config_takeIn, hmore, Service.outcomes_append]
  refine List.Perm.append ?_ (Service.outcomes_perm hnew)
  exact h.resolved.trans (List.Perm.of_eq hold.symm)

/-- **Every call keeps a session settled** when nothing is reported. -/
theorem settled_call (h : session.Settled) (hclean : (session.call c).findings = []) :
    (session.call c).Settled := by
  have houtcome := call_outcome session c
  generalize session.call c = next at houtcome hclean
  cases houtcome with
  | quiet _ visited => exact ⟨h.numbered, h.keyed, h.closed, h.acyclic, h.resolved⟩
  | absorbed hparse hload =>
    obtain ⟨hnumbered, ⟨fresh, hdocuments, hperm⟩, -⟩ := order_traversal h.numbered hload
    exact h.takeIn hnumbered hdocuments hperm hclean

/-- What was reported stays reported. -/
theorem findings_call (session : Session) (c : Call) :
    ∃ more, (session.call c).findings = session.findings ++ more := by
  have houtcome := call_outcome session c
  generalize session.call c = next at houtcome
  cases houtcome with
  | quiet _ visited => exact ⟨[], (List.append_nil _).symm⟩
  | absorbed hparse hload =>
    rw [findings_takeIn, arrived, List.append_assoc]
    exact ⟨_, rfl⟩

/-- **A session that reported nothing is settled.** -/
theorem settled_calls (h : session.Settled) (l : List Call)
    (hclean : (session.calls l).findings = []) : (session.calls l).Settled := by
  refine calls_induction (P := fun s => s.findings = [] → s.Settled) (fun {s c} ih hcall => ?_)
    (fun _ => h) l hclean
  obtain ⟨more, hmore⟩ := findings_call s c
  have hbefore : s.findings = [] := by
    rw [hmore] at hcall
    exact (List.append_eq_nil_iff.1 hcall).1
  exact settled_call (ih hbefore) hcall

/-- **A session without errors is complete.** Whatever was asked for, whatever came of it and
however the files changed in between: everything that a type refers to, as its parent or,
looking through arrays, as the type of a property, is among the types; no way up through the
parents meets a name twice; and the operations are, one for one, what the operation elements
of all service descriptions come to when they are resolved against all types, so that what
an operation wraps and gives back is among the types, and its parameters are what the
wrapper's type inherits. -/
theorem clean_calls (config : Config) (l : List Call)
    (hclean : ((Session.new config).calls l).hasErrors = false) :
    let session := (Session.new config).calls l
    session.types.Closed ∧ session.types.Acyclic ∧
      (session.operations.map Except.ok).Perm
        ((Service.declarations (session.library.documents.flatMap Definitions.ofDocument)).map
          fun declared => Service.operation config.naming session.catalog session.types
            declared.1 declared.2) ∧
      ∀ op ∈ session.operations,
        op.wrapper.key ∈ session.types.keys ∧ op.result.key ∈ session.types.keys ∧
          ∀ type, session.types.get? op.wrapper.key = some type →
            session.types.flatten type = .ok op.parameters := by
  intro session
  have hfindings : session.findings = [] := by
    simpa [hasErrors] using hclean
  have h : session.Settled := settled_calls (settled_new config) l hfindings
  have hresolved := h.resolved
  rw [show session.config = config from config_calls _ l] at hresolved
  refine ⟨h.closed, h.acyclic, hresolved, fun op hop => ?_⟩
  obtain ⟨declared, -, hdeclared⟩ := List.mem_map.1 (hresolved.mem_iff.1 (List.mem_map_of_mem hop))
  exact Service.operation_names h.keyed hdeclared

/-- The description of a service with one operation, whose messages wrap an element of a schema. -/
def itemsService : String :=
  "<w:definitions xmlns:w='" ++ wsdlUri ++ "'><w:import location='a'/>"
    ++ "<w:message name='m'><w:part element='e'/></w:message><w:portType><w:operation name='o'>"
    ++ "<w:input message='m'/><w:output message='m'/></w:operation></w:portType></w:definitions>"

/-- The service and its schema, where the element has the items of its type, and another schema with
one more element of this type. -/
def itemsDirectory : File.Tree :=
  .ofTexts [("service", itemsService),
    ("a", Schema.text "" ("<s:complexType name='I'/><s:complexType name='T'><s:sequence>"
      ++ "<s:element name='items' type='I' maxOccurs='2'/></s:sequence></s:complexType>"
      ++ "<s:element name='e' type='T'/>")),
    ("b", Schema.text "" "<s:element name='f' type='T'/>")]

/-- The session that is asked for the service, and for the other schema after it. -/
def itemsSession : Session :=
  (Session.new {}).calls [⟨itemsDirectory, "service"⟩, ⟨itemsDirectory, "b"⟩]

/-- So it is with the service: its operation takes the items, and still does so when the other
schema has come in. -/
theorem clean_calls_of_extension :
    itemsSession.hasErrors = false ∧ itemsSession.types.Closed ∧ itemsSession.types.Acyclic ∧
      ⟨"", "f"⟩ ∈ itemsSession.types.keys ∧
      ∃ op wrapper, itemsSession.operations = [op] ∧
        op.parameters = [⟨"items", .array (.reference ⟨"", "I"⟩)⟩] ∧
        op.wrapper.key ∈ itemsSession.types.keys ∧ op.result.key ∈ itemsSession.types.keys ∧
        itemsSession.types.get? op.wrapper.key = some wrapper ∧
        wrapper.parent = some ⟨"", "T"⟩ ∧ wrapper.properties = [] ∧
        itemsSession.types.flatten wrapper = .ok op.parameters := by
  have hsession : itemsSession.hasErrors = false ∧ ⟨"", "f"⟩ ∈ itemsSession.types.keys ∧
      (itemsSession.operations.map fun op => (op.parameters,
        (itemsSession.types.get? op.wrapper.key).map fun wrapper =>
          (wrapper.parent, wrapper.properties)))
        = [([⟨"items", .array (.reference ⟨"", "I"⟩)⟩], some (some ⟨"", "T"⟩, []))] := by
    decide +kernel
  obtain ⟨hclean, hlater, hresolved⟩ := hsession
  obtain ⟨hclosed, hacyclic, -, hoperations⟩ :=
    clean_calls {} [⟨itemsDirectory, "service"⟩, ⟨itemsDirectory, "b"⟩] hclean
  obtain ⟨op, hone, hop⟩ := List.map_eq_singleton_iff.1 hresolved
  obtain ⟨hparameters, hfound⟩ := Prod.mk.inj hop
  obtain ⟨wrapper, hget, hwrapper⟩ := Option.map_eq_some_iff.1 hfound
  obtain ⟨hparent, hproperties⟩ := Prod.mk.inj hwrapper
  have hmem : op ∈ itemsSession.operations := hone ▸ List.mem_singleton_self op
  obtain ⟨hkey, hresult, hflatten⟩ := hoperations op hmem
  exact ⟨hclean, hclosed, hacyclic, hlater, op, wrapper, hone, hparameters, hkey, hresult, hget,
    hparent, hproperties, hflatten wrapper hget⟩

end Session

end WsdlTypes
