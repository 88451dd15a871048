import WsdlTypes.Proofs.Declaration.Prefixes
import WsdlTypes.Proofs.Lockstep.Session
import WsdlTypes.Proofs.Session.OneTree
import WsdlTypes.Proofs.Traversal.Prefixes
/-!
# Namespaces count, and prefixes do not

A session that is asked for the same documents under other prefixes keeps step
(`Renamed.calls`): the same documents come in, in the same order, and every declaration of them
is described alike. What is left of the prefixes is how the names of types are written in
properties, and the words for what is wrong (`prefixes_only_abbreviate`). Texts are the same
documents under other prefixes where their tokens are (`renamedText_of_tokens`).
-/

namespace WsdlTypes

variable (ρ : PrefixRenaming)

/-! ## Operations -/

namespace Service

variable (catalog : Catalog) (definitions : Definitions) (e : Xml.Element)

/-- A name in a service description means the same, or nothing, as it did. -/
theorem agree_expand (qname : String) :
    Agree Leeway.prefixes.failed Eq (expand definitions e qname)
      (expand (definitions.renamed ρ) (e.renamed ρ) (QName.renamed ρ qname)) := by
  unfold expand
  rw [Xml.Element.scope_renamed]
  show Agree _ _ _ ((QName.expand (e.scope.renamed ρ) definitions.target _).mapError _)
  rw [QName.expand_renamed]
  cases QName.expand e.scope definitions.target qname with
  | ok key => exact .ok rfl
  | error cause => exact .error rfl

/-- **A message wraps the same element.** -/
theorem agree_messageElement (message : ExpandedName) :
    Agree Leeway.prefixes.failed Eq (messageElement catalog message)
      (messageElement (catalog.renamed ρ) message) := by
  unfold messageElement
  rw [Catalog.message?_renamed]
  cases catalog.message? message with
  | none => exact .error rfl
  | some found =>
    obtain ⟨declaring, e⟩ := found
    simp only [Option.map_some, Xml.Element.child?_renamed]
    cases e.child? wsdlUri "part" with
    | none => exact .error rfl
    | some part =>
      simp only [Option.map_some,
        part.attribute?_renamed_of_mem ρ "element" (by decide)]
      cases part.attribute? "element" with
      | none => exact .error rfl
      | some element => exact agree_expand ρ declaring part element

/-- An operation names the same message. -/
theorem messageName_renamed (name : String) (direction : Direction) :
    messageName (e.renamed ρ) name direction
      = (messageName e name direction).map fun found =>
          (found.1.renamed ρ, QName.renamed ρ found.2) := by
  simp only [messageName, Xml.Element.child?_renamed, bind, pure]
  cases e.child? wsdlUri direction.label with
  | none => rfl
  | some reference =>
    simp only [Option.map_some, Option.bind_some,
      reference.attribute?_renamed_of_mem ρ "message" (by decide)]
    cases reference.attribute? "message" <;> rfl

variable {catalog definitions e} in
theorem directionElement_of_messageName {name : String} {direction : Direction}
    {found : Xml.Element × String} (h : messageName e name direction = .ok found) :
    directionElement catalog definitions e name direction
      = expand definitions found.1 found.2 >>= messageElement catalog := by
  rw [directionElement, h]
  rfl

/-- **The same element goes in each direction of an operation.** -/
theorem agree_directionElement (name : String) (direction : Direction) :
    Agree Leeway.prefixes.failed Eq (directionElement catalog definitions e name direction)
      (directionElement (catalog.renamed ρ) (definitions.renamed ρ) (e.renamed ρ) name
        direction) := by
  have hrenamed := messageName_renamed ρ e name direction
  cases hfound : messageName e name direction with
  | error cause =>
    rw [hfound] at hrenamed
    unfold directionElement
    rw [hfound, hrenamed]
    exact .error rfl
  | ok found =>
    rw [hfound] at hrenamed
    rw [directionElement_of_messageName hfound, directionElement_of_messageName hrenamed]
    refine (agree_expand ρ definitions found.1 found.2).bind fun key key' heq => ?_
    subst heq
    exact agree_messageElement ρ catalog key

/-- **A service description has the same operations.** -/
theorem sameOperations_renamed :
    SameOperations .prefixes catalog (catalog.renamed ρ) definitions (definitions.renamed ρ) where
  location := rfl
  operations := by
    have helements : operationElements (definitions.renamed ρ)
        = (operationElements definitions).map (Xml.Element.renamed ρ) := by
      simp only [operationElements, Definitions.renamed, Xml.Element.children_renamed,
        List.flatMap_map, List.map_flatMap]
    rw [helements, List.forall₂_map_right_iff]
    refine List.forall₂_same.2 fun e _ => ⟨e.line_renamed ρ, ?_, ?_⟩
    · exact e.attribute?_renamed_of_not_mem ρ _ (by decide)
    · exact agree_directionElement ρ catalog definitions e

end Service

/-! ## Catalogs of documents -/

section

variable {ρ} {document document' : Document} {documents documents' : List Document}

theorem Schema.ofDocument_renamed (h : document.Renamed ρ document') (inherited : Option String) :
    ofDocument document' inherited = (ofDocument document inherited).map (Schema.renamed ρ) := by
  simp only [ofDocument, h.root, h.id, h.location, Xml.Element.descendants_renamed, List.map_map]
  congr 1
  funext schema
  simp only [Function.comp_apply, Schema.renamed,
    schema.attribute?_renamed_of_not_mem ρ "targetNamespace" (by decide)]

theorem Definitions.ofDocument_renamed (h : document.Renamed ρ document') :
    ofDocument document' = (ofDocument document).map (Definitions.renamed ρ) := by
  have hsame : DocumentReference.isDefinitions document'.root
      = DocumentReference.isDefinitions document.root := by
    rw [h.root]
    exact Xml.Element.hasTag_renamed ρ document.root _ _
  unfold ofDocument
  rw [hsame]
  split
  · simp only [h.root, h.id, h.location, List.map_cons, List.map_nil, Definitions.renamed,
      document.root.attributeD_renamed_of_not_mem ρ "targetNamespace" (by decide)]
  · rfl

/-- **The catalog of the documents under other prefixes** is the one that they have, renamed. -/
theorem Catalog.ofDocuments_renamed (h : List.Forall₂ (Document.Renamed ρ) documents documents')
    (inherited : Nat → Option String) :
    ofDocuments documents' inherited = (ofDocuments documents inherited).renamed ρ := by
  induction h with
  | nil => rfl
  | @cons document document' rest rest' hfirst _ ih =>
    simp only [ofDocuments, Catalog.renamed, Catalog.mk.injEq] at ih
    simp only [ofDocuments, Catalog.renamed, List.flatMap_cons, List.map_append, ih.1, ih.2,
      hfirst.id, Schema.ofDocument_renamed hfirst, Definitions.ofDocument_renamed hfirst]

end

/-! ## Sessions -/

/-- The type without how the names of the types of its properties are written. -/
def TypeDescriptor.unwritten (type : TypeDescriptor) : TypeDescriptor :=
  { type with properties := type.properties.map fun property => { property with source := "" } }

namespace Leeway

/-- Properties that match under other prefixes are the same but for how types are written. -/
theorem unwritten_property_eq (property property' : Property)
    (h : property.Matches prefixes property') :
    ({ property' with source := "" } : Property) = { property with source := "" } := by
  simp only [Property.mk.injEq, true_and]
  exact ⟨h.name.symm, h.type, h.nullable, h.restrictions, h.enumeration⟩

theorem unwritten_eq (type type' : TypeDescriptor) (h : type.Matches prefixes type') :
    type'.unwritten = type.unwritten := by
  simp only [TypeDescriptor.unwritten, h.key, h.location, h.name, h.documentation, h.parent,
    ← show type.package = type'.package from h.package,
    map_eq_of_forall₂ unwritten_property_eq h.properties]

/-- Operations that match under other prefixes are the same. -/
theorem eq_of_operation_matches (operation operation' : Operation)
    (h : operation.Matches prefixes operation') : operation' = operation := by
  have hparameters : operation'.parameters.map id = operation.parameters.map id := by
    refine map_eq_of_forall₂ (fun parameter parameter' hparameter => ?_) h.parameters
    cases parameter; cases parameter'
    simp only [id, Parameter.mk.injEq]
    exact ⟨hparameter.name.symm, hparameter.type⟩
  have hreference : ∀ reference reference' : TypeReference,
      reference.Matches prefixes reference' → reference' = reference := by
    intro reference reference' hreference
    cases reference; cases reference'
    simp only [TypeReference.mk.injEq]
    exact ⟨hreference.key, hreference.qualifiedName.symm⟩
  cases operation; cases operation'
  simp only [Operation.mk.injEq]
  simp only [List.map_id] at hparameters
  exact ⟨h.name, hparameters, hreference _ _ h.wrapper, hreference _ _ h.result⟩

end Leeway

/-- Two diagnostics of one kind at one place. -/
def Diagnostic.SameKind : Diagnostic → Diagnostic → Prop :=
  SameBut fun _ _ _ => True

/-- Findings that match under other prefixes are told of by diagnostics of one kind. -/
theorem Finding.Matches.sameKind {finding finding' : Finding}
    (h : finding.Matches .prefixes finding') (naming : Naming) :
    (finding.diagnostic naming).SameKind (finding'.diagnostic naming) :=
  ⟨h.problem, h.file, h.line, trivial⟩

/-- Two calls for one location, over trees with the same documents. -/
structure Call.Renamed (doctypes : Bool) (c c' : Call) : Prop where
  source : c'.source = c.source
  tree : c.tree.Renamed ρ doctypes c'.tree

namespace Session

/-- Two sessions over the same documents under other prefixes. -/
structure Renamed (session other : Session) : Prop where
  config : other.config = session.config
  library : session.library.Renamed ρ other.library
  inherited : other.inherited = session.inherited
  resolved : Matches .prefixes session other

variable {ρ} {session other : Session}

theorem renamed_new (config : Config) : Renamed ρ (Session.new config) (Session.new config) :=
  ⟨rfl, ⟨rfl, rfl, .nil⟩, rfl, matches_new .prefixes config config⟩

namespace Renamed

theorem catalog_eq (h : Renamed ρ session other) :
    other.catalog = session.catalog.renamed ρ := by
  rw [catalog, catalog, h.inherited]
  exact Catalog.ofDocuments_renamed h.library.documents _

/-- **Declarations are taken in alike.** -/
theorem takeIn (h : Renamed ρ session other) (order : List Nat) :
    Renamed ρ (session.takeIn order) (other.takeIn order) := by
  refine ⟨h.config, h.library, h.inherited, ?_⟩
  have hvalue : session.config.valueName = other.config.valueName := by rw [h.config]
  have hknown : ∀ key, session.config.naming.qualifiedName key
      = other.config.naming.qualifiedName key := fun _ => by rw [h.config]
  refine h.resolved.takeIn hvalue hknown ?_ ?_
  · rw [h.catalog_eq, h.config]
    exact Declaration.forall₂_declarationsOf_prefixes ρ session.catalog session.config order
  · rw [h.catalog_eq, Catalog.definitionsOf_renamed, List.forall₂_map_right_iff]
    exact List.forall₂_same.2 fun definitions _ =>
      Service.sameOperations_renamed ρ session.catalog definitions

variable {tree tree' : File.Tree}

/-- A document that just came in leads to the same. -/
theorem absorb (h : Renamed ρ session other)
    (htree : tree.Renamed ρ session.library.doctypes tree') {document document' : Document}
    (hdocument : document.Renamed ρ document') :
    Renamed ρ (session.absorb tree document) (other.absorb tree' document') := by
  have hstart : (Traversal.ofRoot session.library session.inherited document).Renamed ρ
      (Traversal.ofRoot other.library other.inherited document') :=
    ⟨h.library, h.inherited, .nil, rfl, .cons (.enter hdocument) .nil⟩
  have hend := hstart.run htree
  have harrived : Renamed ρ
      (session.arrived (Traversal.run tree (.ofRoot session.library session.inherited document)))
      (other.arrived (Traversal.run tree' (.ofRoot other.library other.inherited document'))) := by
    refine ⟨h.config, hend.library, hend.inherited, h.resolved.types, h.resolved.operations, ?_⟩
    exact List.rel_append h.resolved.findings hend.findings
  unfold Session.absorb
  simp only [hend.order]
  exact harrived.takeIn _

/-- **A location is resolved alike.** -/
theorem load (h : Renamed ρ session other)
    (htree : tree.Renamed ρ session.library.doctypes tree') (location : Location) :
    Renamed ρ (session.load tree location).1 (other.load tree' location).1 ∧
      Agree (fun _ _ => True) (LoadOutcome.Renamed ρ) (session.load tree location).2
        (other.load tree' location).2 := by
  have hdoctypes : (session.library.load tree location).1.doctypes = session.library.doctypes :=
    Library.doctypes_load
  obtain ⟨hlibrary, houtcome⟩ := h.library.load htree location
  unfold Session.load
  generalize session.library.load tree location = found,
    other.library.load tree' location = found' at hdoctypes hlibrary houtcome ⊢
  obtain ⟨library, outcome⟩ := found
  obtain ⟨library', outcome'⟩ := found'
  have hnext : Renamed ρ { session with library } { other with library := library' } :=
    ⟨h.config, hlibrary, h.inherited, h.resolved.types, h.resolved.operations,
      h.resolved.findings⟩
  dsimp only at hdoctypes houtcome ⊢
  cases houtcome with
  | error => exact ⟨hnext, .error trivial⟩
  | ok houtcome =>
    cases houtcome with
    | alreadyLoaded => exact ⟨hnext, .ok .alreadyLoaded⟩
    | loaded hdocument =>
      exact ⟨hnext.absorb (hdoctypes ▸ htree) hdocument, .ok (.loaded hdocument)⟩

theorem call (h : Renamed ρ session other) {c c' : Call}
    (hc : c.Renamed ρ session.library.doctypes c') :
    Renamed ρ (session.call c) (other.call c') ∧
      Agree (fun _ _ => True) (LoadOutcome.Renamed ρ) (session.resolve c.tree c.source).2
        (other.resolve c'.tree c'.source).2 := by
  unfold Session.call resolve
  rw [hc.source]
  cases Location.parse c.source with
  | error cause => exact ⟨h, .error trivial⟩
  | ok location => exact h.load hc.tree location

/-- **Calls for the same locations** keep sessions in step, and come to the same. -/
theorem calls (h : Renamed ρ session other) {l l' : List Call}
    (hl : List.Forall₂ (Call.Renamed ρ session.library.doctypes) l l') :
    Renamed ρ (session.calls l) (other.calls l') ∧
      List.Forall₂ (Agree (fun _ _ => True) (LoadOutcome.Renamed ρ)) (session.results l)
        (other.results l') := by
  generalize hdoctypes : session.library.doctypes = doctypes at hl
  induction hl generalizing session other with
  | nil => exact ⟨h, .nil⟩
  | cons hc _ ih =>
    subst hdoctypes
    obtain ⟨hcall, hresult⟩ := h.call hc
    obtain ⟨hcalls, hresults⟩ := ih hcall doctypes_call
    exact ⟨hcalls, .cons hresult hresults⟩

end Renamed

/-- **Prefixes only abbreviate.** Let two new sessions be asked for the same locations, where the
documents of the one are those of the other under other prefixes: the prefixes are renamed
wherever they are declared or used, different ones to different ones, and the empty prefix, `xml`,
`xmlns` and `tns` are kept. Then the types are the same but for how the names of types are written
in properties, the operations are the same, and as many diagnostics are made, in the same order,
each of the same kind, file and line. And every call comes to the same, or fails on both sides. -/
theorem prefixes_only_abbreviate (ρ : PrefixRenaming) (config : Config) {l l' : List Call}
    (hl : List.Forall₂ (Call.Renamed ρ config.doctypes) l l') :
    let session := (Session.new config).calls l
    let other := (Session.new config).calls l'
    other.types.mapValues TypeDescriptor.unwritten
        = session.types.mapValues TypeDescriptor.unwritten ∧
      other.operations = session.operations ∧
      List.Forall₂ Diagnostic.SameKind session.diagnostics other.diagnostics ∧
      List.Forall₂ (Agree (fun _ _ => True) (LoadOutcome.Renamed ρ))
        ((Session.new config).results l) ((Session.new config).results l') := by
  intro session other
  obtain ⟨hsession, hresults⟩ := (renamed_new config).calls (ρ := ρ) hl
  have hoperations : other.operations.map id = session.operations.map id :=
    Leeway.map_eq_of_forall₂ Leeway.eq_of_operation_matches hsession.resolved.operations
  refine ⟨hsession.resolved.types.mapValues_eq Leeway.unwritten_eq, ?_, ?_, hresults⟩
  · simpa only [List.map_id] using hoperations
  · rw [diagnostics, diagnostics, hsession.config, List.forall₂_map_left_iff,
      List.forall₂_map_right_iff]
    exact hsession.resolved.findings.imp fun _ _ hfinding => hfinding.sameKind _

/-- A schema of one type, with some prefix for the namespace of schemas. -/
def schemaWithPrefix (nsPrefix : String) : List Char :=
  "<".toList ++ nsPrefix.toList ++ ":schema xmlns:".toList ++ nsPrefix.toList ++ "='".toList
    ++ schemaUri.toList ++ "'><".toList ++ nsPrefix.toList ++ ":complexType name='T'><".toList
    ++ nsPrefix.toList ++ ":attribute name='a' type='".toList ++ nsPrefix.toList
    ++ ":int'/></".toList ++ nsPrefix.toList ++ ":complexType></".toList ++ nsPrefix.toList
    ++ ":schema>".toList

/-- A schema under another prefix makes the same type, in which the prefix is written no more. -/
theorem prefixes_only_abbreviate_schemaWithPrefix :
    let ρ := PrefixRenaming.exchange "s" "x" (by decide) (by decide)
    let c : Call := ⟨.ofTexts [("a", String.ofList (schemaWithPrefix "s"))], "a"⟩
    let c' : Call := ⟨.ofTexts [("a", String.ofList (schemaWithPrefix "x"))], "a"⟩
    let session := (Session.new {}).calls [c]
    let other := (Session.new {}).calls [c']
    List.Forall₂ (Call.Renamed ρ false) [c] [c'] ∧
      other.types.mapValues TypeDescriptor.unwritten
        = session.types.mapValues TypeDescriptor.unwritten ∧
      (session.types.get? ⟨"", "T"⟩).map (fun type => type.properties.map Property.source)
        = some ["s:int"] := by
  intro ρ c c' session other
  let read := Xml.Token.ofDocument false (schemaWithPrefix "s")
  let read' := Xml.Token.ofDocument false (schemaWithPrefix "x")
  obtain ⟨hlength, hrenamed, hfailure⟩ : read.tokens.length = read'.tokens.length ∧
      (∀ pair ∈ read.tokens.zip read'.tokens, pair.1.isRenamed ρ pair.2 = true) ∧
      read'.failure.isSome = read.failure.isSome := by decide +kernel
  have htokens : read.Renamed ρ read' :=
    ⟨List.forall₂_iff_zip.2 ⟨hlength, fun hmem => hrenamed _ hmem⟩, hfailure⟩
  have htext : RenamedText ρ false (String.ofList (schemaWithPrefix "s"))
      (String.ofList (schemaWithPrefix "x")) :=
    renamedText_of_tokens (by rwa [String.toList_ofList, String.toList_ofList])
  have hcall : c.Renamed ρ false c' := ⟨rfl, rfl, .cons ⟨rfl, .file htext⟩ .nil, .nil⟩
  have hl : List.Forall₂ (Call.Renamed ρ false) [c] [c'] := .cons hcall .nil
  exact ⟨hl, (prefixes_only_abbreviate ρ {} hl).1, by decide +kernel⟩

end Session

end WsdlTypes
