import WsdlTypes.Proofs.Location
import WsdlTypes.Proofs.Session.Checked
import WsdlTypes.Proofs.Session.Merged
import WsdlTypes.Proofs.Session.OneTree
/-!
# Where a dangling reference comes from

What a type refers to, it refers to by its parent or by a property (`TypeDescriptor.Link`), and each
of these links comes from a declaration of a document (`Session.Contributes`). A report of a link
that leads nowhere names one document, though: the last one that declares the type
(`Session.DeclaredLast`), whether or not the link is from there. So a report names a document that
the link comes from exactly where the last one is one of those
(`Session.blamed_document_contributes_iff`).
-/

namespace WsdlTypes

/-! ## Links -/

namespace TypeDescriptor

/-- What a type may refer to another one by. -/
inductive Link where
  | parent (target : ExpandedName)
  | property (own : Property)

/-- Who refers, as reports call it. -/
def Link.referrer : Link → String
  | parent _ => "parent"
  | property own => own.name

/-- What is referred to, if anything. -/
def Link.target? : Link → Option ExpandedName
  | parent target => some target
  | property own => own.type.reference?

/-- A type has a parent or a property. -/
def Has (type : TypeDescriptor) : Link → Prop
  | .parent target => type.parent = some target
  | .property own => own ∈ type.properties

instance (type : TypeDescriptor) (link : Link) : Decidable (type.Has link) :=
  match link with
  | .parent target => inferInstanceAs (Decidable (type.parent = some target))
  | .property own => inferInstanceAs (Decidable (own ∈ type.properties))

variable {type : TypeDescriptor} {parts : List TypeDescriptor} {link : Link}
variable {valueName referrer : String} {target : ExpandedName}

/-- A type refers to another one by a link. -/
theorem refers_iff : type.Refers referrer target ↔
    ∃ link, type.Has link ∧ link.referrer = referrer ∧ link.target? = some target := by
  constructor
  · intro h
    cases h with
    | parent h => exact ⟨.parent target, h, rfl, rfl⟩
    | property hmem h => exact ⟨.property _, hmem, rfl, h⟩
  · rintro ⟨link, hhas, rfl, htarget⟩
    cases link with
    | parent =>
      cases htarget
      exact .parent hhas
    | property => exact .property hhas htarget

/-- **Every link of a type comes from one of its parts.** -/
theorem Combines.exists_has (h : type.Combines valueName parts) (hhas : type.Has link) :
    ∃ part ∈ parts, part.Has link := by
  cases link with
  | parent target =>
    have hparent : type.parent = some target := hhas
    rw [h.parent] at hparent
    split at hparent
    · cases hparent
    · obtain ⟨part, hpart, heq⟩ := List.mem_filterMap.1 (List.mem_of_getLast? hparent)
      exact ⟨part, hpart, heq⟩
  | property own =>
    have hproperty : own ∈ type.properties := hhas
    rw [h.properties] at hproperty
    exact List.mem_flatMap.1 hproperty

/-- The report of a link of a type that leads nowhere. -/
def Link.undeclared (type : TypeDescriptor) (link : Link) (target : ExpandedName) : Finding :=
  ⟨.undeclaredReference target link.referrer type.name, type.location, 0⟩

end TypeDescriptor

/-- A type of a map has a link to what is not in the map. -/
structure TypeMap.Dangles (types : TypeMap) (key : ExpandedName) (type : TypeDescriptor)
    (link : TypeDescriptor.Link) (target : ExpandedName) : Prop where
  get? : types.get? key = some type
  has : type.Has link
  leads : link.target? = some target
  missing : target ∉ types.keys

/-! ## Documents and their declarations -/

namespace Session

variable {session : Session} {config : Config} {c : Call} {document : Document}
variable {key target : ExpandedName} {type part : TypeDescriptor} {link : TypeDescriptor.Link}

/-- The descriptors of the declarations of a document. -/
def descriptorsOf (session : Session) (document : Document) : List TypeDescriptor :=
  Walk.descriptors session.config session.catalog <|
    (session.schemasOf document).flatMap fun schema =>
      schema.declarations.map fun e => (schema, e)

/-- A document declares a name. -/
def Declares (session : Session) (document : Document) (key : ExpandedName) : Prop :=
  ∃ part ∈ session.descriptorsOf document, part.key = key

/-- A document has a declaration of a name that gives the type a link. -/
def Contributes (session : Session) (document : Document) (key : ExpandedName)
    (link : TypeDescriptor.Link) : Prop :=
  ∃ part ∈ session.descriptorsOf document, part.key = key ∧ part.Has link

instance (session : Session) (document : Document) (key : ExpandedName)
    (link : TypeDescriptor.Link) : Decidable (session.Contributes document key link) :=
  inferInstanceAs (Decidable (∃ part ∈ session.descriptorsOf document, _))

/-- Of the documents that declare a name, one comes last in an order. -/
structure DeclaredLast (session : Session) (order : List Nat) (key : ExpandedName)
    (last : Document) : Prop where
  mem : last ∈ session.library.documents
  declares : session.Declares last key
  behind : ∃ front back, order = front ++ last.id :: back ∧
    ∀ document ∈ session.library.documents, document.id ∈ back → ¬session.Declares document key

/-- What is walked for the number of a document are its declarations. -/
theorem declarationsOf_singleton (hnumbered : session.library.Numbered)
    (hmem : document ∈ session.library.documents) :
    session.catalog.declarationsOf [document.id]
      = (session.schemasOf document).flatMap fun schema =>
          schema.declarations.map fun e => (schema, e) := by
  have hschemas : session.catalog.schemasOf [document.id] = session.schemasOf document := by
    rw [Catalog.schemasOf, List.flatMap_singleton]
    exact Catalog.filter_flatMap_parts (fun _ _ h => Schema.document_of_mem_ofDocument h)
      hnumbered.nodup_ids hmem
  rw [Catalog.declarationsOf, hschemas]

/-- A descriptor of a document has the location of the document. -/
theorem location_of_mem_descriptorsOf (h : part ∈ session.descriptorsOf document) :
    part.location = document.location.display := by
  obtain ⟨d, hd, hdescribe⟩ := List.mem_filterMap.1 h
  obtain ⟨schema, hschema, hd⟩ := List.mem_flatMap.1 hd
  obtain ⟨e, -, rfl⟩ := List.mem_map.1 hd
  rw [Declaration.location_describeAny hdescribe]
  obtain ⟨element, -, rfl⟩ := List.mem_map.1 hschema
  rfl

/-! ## The first call -/

/-- The parts of a type that documents declare, the document last walked last. -/
theorem combines_of_first_call (hget : ((Session.new config).call c).types.get? key = some type) :
    type.Combines config.valueName (((Session.new config).order c).flatMap fun id =>
      (Walk.descriptors config ((Session.new config).call c).catalog
        (((Session.new config).call c).catalog.declarationsOf [id])).filter
          fun part => part.key = key) := by
  have hcombines := (combined_new_calls config [c]).combines key type hget
  have hdescribed : (Session.new config).described [c]
      = ((Session.new config).order c).flatMap fun id =>
          Walk.descriptors config ((Session.new config).call c).catalog
            (((Session.new config).call c).catalog.declarationsOf [id]) := by
    rw [described_cons]
    simp only [described, declarations, List.filterMap_nil, List.append_nil, Catalog.declarationsOf,
      Catalog.schemasOf, Walk.descriptors, List.flatMap_assoc, List.flatMap_singleton,
      List.filterMap_flatMap]
    rfl
  rw [hdescribed, List.filter_flatMap] at hcombines
  exact hcombines

/-- The documents of a first call are those that it walks. -/
theorem mem_order_iff {id : Nat} : id ∈ (Session.new config).order c ↔
    ∃ document ∈ ((Session.new config).call c).library.documents, document.id = id := by
  obtain ⟨-, fresh, hdocuments, hperm⟩ := call_order (c := c) (numbered_new config)
  have hall : ((Session.new config).call c).library.documents = fresh := hdocuments
  rw [hall, hperm.mem_iff, List.mem_map]

/-- What is walked for a document of a first call are its descriptors. -/
theorem descriptors_declarationsOf_singleton
    (hmem : document ∈ ((Session.new config).call c).library.documents) :
    Walk.descriptors config ((Session.new config).call c).catalog
        (((Session.new config).call c).catalog.declarationsOf [document.id])
      = ((Session.new config).call c).descriptorsOf document := by
  have hnumbered := (call_order (c := c) (numbered_new config)).1
  rw [declarationsOf_singleton hnumbered hmem, descriptorsOf, config_call]
  rfl

/-- **A type has the location of the document that declares it last.** -/
theorem exists_declaredLast (hget : ((Session.new config).call c).types.get? key = some type) :
    ∃ last, ((Session.new config).call c).DeclaredLast ((Session.new config).order c) key last ∧
      type.location = last.location.display := by
  have hcombines := combines_of_first_call hget
  obtain ⟨part, hlast, hlocation⟩ := Option.map_eq_some_iff.1 hcombines.location
  rw [List.getLast?_flatMap, List.findSome?_eq_some_iff] at hlast
  obtain ⟨later, id, earlier, horder, hpart, hnone⟩ := hlast
  have horder' : (Session.new config).order c = earlier.reverse ++ id :: later.reverse := by
    rw [← List.reverse_reverse ((Session.new config).order c), horder]
    simp
  obtain ⟨last, hmem, rfl⟩ : ∃ last ∈ ((Session.new config).call c).library.documents,
      last.id = id := mem_order_iff.1 (by simp [horder'])
  rw [descriptors_declarationsOf_singleton hmem] at hpart
  obtain ⟨hpart, hkey⟩ := List.mem_filter.1 (List.mem_of_getLast? hpart)
  rw [decide_eq_true_eq] at hkey
  refine ⟨last, ⟨hmem, ⟨part, hpart, hkey⟩, _, _, horder', ?_⟩, ?_⟩
  · rintro document hdocument hbehind ⟨other, hother, hotherkey⟩
    have hempty := hnone document.id (List.mem_reverse.1 hbehind)
    rw [descriptors_declarationsOf_singleton hdocument, List.getLast?_eq_none_iff,
      List.filter_eq_nil_iff] at hempty
    exact hempty other hother (decide_eq_true hotherkey)
  · rw [← hlocation, location_of_mem_descriptorsOf hpart]

/-- **Every link of a type comes from a declaration of a document.** -/
theorem exists_contributes (hget : ((Session.new config).call c).types.get? key = some type)
    (hhas : type.Has link) :
    ∃ document ∈ ((Session.new config).call c).library.documents,
      ((Session.new config).call c).Contributes document key link := by
  obtain ⟨part, hpart, hlink⟩ := (combines_of_first_call hget).exists_has hhas
  obtain ⟨id, hid, hpart⟩ := List.mem_flatMap.1 hpart
  obtain ⟨document, hmem, rfl⟩ := mem_order_iff.1 hid
  rw [descriptors_declarationsOf_singleton hmem] at hpart
  obtain ⟨hpart, hkey⟩ := List.mem_filter.1 hpart
  exact ⟨document, hmem, part, hpart, of_decide_eq_true hkey, hlink⟩

/-- The documents of a first call are told apart by their locations. -/
theorem eq_of_display_eq {d d' : Document}
    (hd : d ∈ ((Session.new config).call c).library.documents)
    (hd' : d' ∈ ((Session.new config).call c).library.documents)
    (heq : d.location.display = d'.location.display) : d = d' := by
  have hexplored : Explored c.tree (locations [c.source]) ((Session.new config).call c) :=
    (explored_new config).call fun location hparse =>
      mem_locations.2 ⟨c.source, List.mem_singleton_self _, hparse⟩
  have hproper : ∀ location ∈ locations [c.source], location.IsProper :=
    fun _ hlocation => isProper_of_mem_locations hlocation
  have hsourced := hexplored.traced.sourced
  refine hsourced.eq_of_identity_eq hd hd' ?_
  exact Location.identity_eq_of_display_eq (hsourced.read d hd) (hexplored.isProper hproper hd)
    (hsourced.read d' hd') (hexplored.isProper hproper hd') heq

/-- **A report of a dangling link names the last document that declares the type.** In a new session
every type with a link to what is not declared is reported, for each such link, and nothing else is
reported as undeclared. The link comes from a declaration of the type in a document, and it comes
from one in the document that the report names if and only if it does from one in the last document
that was walked with a declaration of the type. -/
theorem blamed_document_contributes_iff (config : Config) (c : Call) :
    let session := (Session.new config).call c
    (∀ finding ∈ session.findings, ∀ target referrer name,
        finding.problem = .undeclaredReference target referrer name →
        ∃ key type link, session.types.Dangles key type link target ∧
          finding = link.undeclared type target) ∧
      ∀ key type link target, session.types.Dangles key type link target →
        link.undeclared type target ∈ session.findings ∧
          (∃ document ∈ session.library.documents, session.Contributes document key link) ∧
          ∃ last, session.DeclaredLast ((Session.new config).order c) key last ∧
            (link.undeclared type target).file = last.location.display ∧
            ((∃ document ∈ session.library.documents,
                document.location.display = (link.undeclared type target).file ∧
                  session.Contributes document key link) ↔
              session.Contributes last key link) := by
  intro session
  refine ⟨fun finding hfinding target referrer name hproblem => ?_,
    fun key type link target hdangles => ?_⟩
  · have hstage : finding.problem.stage = .reference := by
      rw [hproblem]
      rfl
    have hnew := (mem_findings_call TypeMap.keyed_empty hstage).1 hfinding
    obtain ⟨key, type, -, hget, hchecked⟩ := hnew.resolve_left List.not_mem_nil
    rcases References.mem_findings_checkType.1 hchecked with
      ⟨referrer', target', href, hmissing, rfl⟩ | ⟨closedBy, -, rfl⟩
    · cases hproblem
      obtain ⟨link, hhas, rfl, htarget⟩ := TypeDescriptor.refers_iff.1 href
      exact ⟨key, type, link, ⟨hget, hhas, htarget, hmissing⟩, rfl⟩
    · cases hproblem
  · have hrefers : type.Refers link.referrer target :=
      TypeDescriptor.refers_iff.2 ⟨link, hdangles.has, rfl, hdangles.leads⟩
    have hreported : link.undeclared type target ∈ session.findings := by
      refine (mem_findings_call TypeMap.keyed_empty rfl).2
        (Or.inr ⟨key, type, List.not_mem_nil, hdangles.get?, ?_⟩)
      exact References.mem_findings_checkType.2
        (Or.inl ⟨link.referrer, target, hrefers, hdangles.missing, rfl⟩)
    obtain ⟨last, hlast, hfile⟩ := exists_declaredLast hdangles.get?
    refine ⟨hreported, exists_contributes hdangles.get? hdangles.has, last, hlast, hfile, ?_, ?_⟩
    · rintro ⟨document, hdocument, hsame, hcontributes⟩
      exact eq_of_display_eq hdocument hlast.mem (hsame.trans hfile) ▸ hcontributes
    · exact fun hcontributes => ⟨last, hlast.mem, hfile.symm, hcontributes⟩

/-- A type with a parent that nothing declares. -/
def extendsNothing : String :=
  "<s:complexType name='T'><s:complexContent><s:extension base='M'/></s:complexContent>"
    ++ "</s:complexType>"

/-- A schema with some content, and one with some other that it includes. -/
def includer (outer inner : String) : File.Tree :=
  .ofTexts
    [("a", Schema.text "" ("<s:include schemaLocation='b'/>" ++ outer)),
      ("b", Schema.text "" inner)]

/-- The schema is walked last, and the parent is from there. -/
theorem blamed_document_contributes_iff_outerParent :
    let c : Call := ⟨includer extendsNothing "<s:complexType name='T'/>", "a"⟩
    let session := (Session.new {}).call c
    ∃ type, session.types.Dangles ⟨"", "T"⟩ type (.parent ⟨"", "M"⟩) ⟨"", "M"⟩ ∧
      TypeDescriptor.Link.undeclared type (.parent ⟨"", "M"⟩) ⟨"", "M"⟩ ∈ session.findings ∧
      ∃ last, session.DeclaredLast ((Session.new {}).order c) ⟨"", "T"⟩ last ∧
        last.location.display = "a" ∧ session.Contributes last ⟨"", "T"⟩ (.parent ⟨"", "M"⟩) := by
  intro c session
  have hall : (session.types.get? ⟨"", "T"⟩).map (fun type => (type.parent, type.location))
        = some (some ⟨"", "M"⟩, "a") ∧ ⟨"", "M"⟩ ∉ session.types.keys ∧
      ∃ document ∈ session.library.documents, document.location.display = "a" ∧
        session.Contributes document ⟨"", "T"⟩ (.parent ⟨"", "M"⟩) := by decide +kernel
  obtain ⟨htype, hmissing, hfrom⟩ := hall
  obtain ⟨type, hget, hlooks⟩ := Option.map_eq_some_iff.1 htype
  obtain ⟨hparent, hlocation⟩ := Prod.mk.inj hlooks
  have hdangles : session.types.Dangles ⟨"", "T"⟩ type (.parent ⟨"", "M"⟩) ⟨"", "M"⟩ :=
    ⟨hget, hparent, rfl, hmissing⟩
  obtain ⟨hreported, -, last, hlast, hfile, hiff⟩ :=
    (blamed_document_contributes_iff {} c).2 _ _ _ _ hdangles
  have hblamed : (TypeDescriptor.Link.undeclared type (.parent ⟨"", "M"⟩) ⟨"", "M"⟩).file = "a" :=
    hlocation
  rw [hblamed] at hfile hiff
  exact ⟨type, hdangles, hreported, last, hlast, hfile.symm, hiff.1 hfrom⟩

/-- **A report may name a document that is not at fault.** The parent that nothing declares is from
the included schema, and the report of it names the other one, where the type has no parent. -/
theorem innerParent_blamed_on_outer :
    let session := (Session.new {}).call
      ⟨includer "<s:complexType name='T'/>" extendsNothing, "a"⟩
    (∃ type, session.types.Dangles ⟨"", "T"⟩ type (.parent ⟨"", "M"⟩) ⟨"", "M"⟩) ∧
      ⟨.undeclaredReference ⟨"", "M"⟩ "parent" "T", "a", 0⟩ ∈ session.findings ∧
      (∀ document ∈ session.library.documents, document.location.display = "a" →
        ¬session.Contributes document ⟨"", "T"⟩ (.parent ⟨"", "M"⟩)) ∧
      ∃ document ∈ session.library.documents, document.location.display = "b" ∧
        session.Contributes document ⟨"", "T"⟩ (.parent ⟨"", "M"⟩) := by
  intro session
  have hall : session.types.parent? ⟨"", "T"⟩ = some ⟨"", "M"⟩ ∧ ⟨"", "M"⟩ ∉ session.types.keys ∧
      ⟨.undeclaredReference ⟨"", "M"⟩ "parent" "T", "a", 0⟩ ∈ session.findings ∧
      (∀ document ∈ session.library.documents, document.location.display = "a" →
        ¬session.Contributes document ⟨"", "T"⟩ (.parent ⟨"", "M"⟩)) ∧
      ∃ document ∈ session.library.documents, document.location.display = "b" ∧
        session.Contributes document ⟨"", "T"⟩ (.parent ⟨"", "M"⟩) := by decide +kernel
  obtain ⟨hparent, hmissing, hreported⟩ := hall
  obtain ⟨type, hget, hparent⟩ := Option.bind_eq_some_iff.1 hparent
  exact ⟨⟨type, hget, hparent, rfl, hmissing⟩, hreported⟩

end Session

end WsdlTypes
