import WsdlTypes.Proofs.Location
import WsdlTypes.Proofs.Session.Domain
import WsdlTypes.Proofs.Session.OneTree
/-!
# Sessions over the same files

Two sessions that were asked for the same locations in different orders have different numbers
for their documents, and may know a file by different spellings. But they have read at the same
places (`Reader.exists_counterpart`), whatever is referred to in one is referred to in the other
(`Reader.exists_of_reaches`), and where included schemas declare their namespaces the schemas of
a file have the same ones in both (`contents_eq`). All this holds of a session on its way, too, of
the documents that it has got so far.
-/

namespace WsdlTypes

/-- Two documents are read at one place, be it a file or a URL. -/
def Document.SameFile (tree : File.Tree) (document other : Document) : Prop :=
  document.location.place tree = other.location.place tree

namespace Library

variable {library : Library} {document : Document} {lead : Lead}

theorem mem_leads_of_mem (hmem : document ∈ library.documents) (hlead : lead ∈ document.leads) :
    lead ∈ library.leads := List.mem_flatMap.2 ⟨document, hmem, hlead⟩

end Library

theorem Reached.of_mem_leads {asked : List Location} {documents : List Document}
    {document : Document} {lead : Lead} (hmem : document ∈ documents)
    (hlead : lead ∈ document.leads) :
    Reached asked documents lead.location lead.reference.includedInto := by
  obtain rfl := (Document.mem_leads.1 hlead).1
  exact Reached.lead hmem hlead

/-- What a schema consists of, wherever it stands. -/
def Schema.content (schema : Schema) : Xml.Element × String := (schema.element, schema.target)

namespace Session

variable {config : Config} {tree : File.Tree} {asked : List Location} {session other : Session}
variable {document document' : Document} {location : Location} {root : Xml.Element}

/-- A session whose files stay as they are, where no location that it has a reason to try passes
for a file that it does not open. -/
structure Reader (config : Config) (tree : File.Tree) (asked : List Location) (session : Session) :
    Prop where
  configured : session.config = config
  doctypes : session.library.doctypes = config.doctypes
  explored : Explored tree asked session
  proper : ∀ location ∈ asked, location.IsProper
  fair : ∀ location ∈ asked ++ session.library.leads.map Lead.location, location.Fair tree

/-! ## Documents -/

theorem Reader.root? (h : Reader config tree asked session)
    (hmem : document ∈ session.library.documents) :
    document.location.root? config.doctypes tree = some document.root :=
  h.doctypes ▸ h.explored.traced.sourced.read document hmem

theorem Reader.isProper (h : Reader config tree asked session)
    (hmem : document ∈ session.library.documents) : document.location.IsProper :=
  h.explored.isProper h.proper hmem

/-- A location that there is a reason to try is a fit one. -/
theorem Reader.reached (h : Reader config tree asked session) {target : Option String}
    (hreached : Reached asked session.library.documents location target) :
    location.IsProper ∧ location.Fair tree := by
  cases hreached with
  | asked hasked => exact ⟨h.proper _ hasked, h.fair _ (List.mem_append_left _ hasked)⟩
  | @lead lead hdocument hlead =>
    refine ⟨?_, h.fair _ (List.mem_append_right _
      (List.mem_map.2 ⟨lead, Library.mem_leads_of_mem hdocument hlead, rfl⟩))⟩
    exact Location.isProper_of_join (h.root? hdocument) (h.isProper hdocument)
      (Document.mem_leads.1 hlead).2.2

theorem Reader.reached_document (h : Reader config tree asked session)
    (hmem : document ∈ session.library.documents) :
    Reached asked session.library.documents document.location
      (session.inherited.lookup document.id) :=
  (h.explored.traced.reached document hmem).mono (List.take_subset _ _)

variable (hwork : tree.WorksInside)

include hwork

/-- What can be read and was tried came in. -/
theorem Reader.exists_of_tried (h : Reader config tree asked session)
    (hroot : location.root? config.doctypes tree = some root) (hproper : location.IsProper)
    (htried : location.identity tree ∈ session.library.visited) :
    ∃ document ∈ session.library.documents,
      document.location.place tree = location.place tree := by
  rcases h.explored.traced.accounted _ htried with
    ⟨document, hmem, hsame⟩ | ⟨vain, target, hreached, hsame, hnone⟩
  · obtain ⟨hproper', hfair'⟩ := h.reached (h.reached_document hmem)
    exact ⟨document, hmem,
      Location.place_eq_of_identity_eq hwork hroot hproper hsame hproper' hfair'⟩
  · obtain ⟨hproper', hfair'⟩ := h.reached hreached
    have hread := Location.root?_of_identity_eq hwork hroot hproper hsame hproper' hfair'
    rw [h.doctypes, hread] at hnone
    cases hnone

/-- What is read at one place is the same in two sessions. -/
theorem Reader.root_eq (h : Reader config tree asked session) (h' : Reader config tree asked other)
    (hmem : document ∈ session.library.documents) (hmem' : document' ∈ other.library.documents)
    (hsame : document.SameFile tree document') : document.root = document'.root :=
  Location.root?_eq_of_place_eq hwork (h'.root? hmem') (h.root? hmem) hsame

/-- A reference that leads to a document from one of two spellings leads there from the other,
too. -/
theorem Reader.exists_lead (h : Reader config tree asked session)
    (h' : Reader config tree asked other)
    (hmem : document ∈ session.library.documents) (hmem' : document' ∈ other.library.documents)
    (hsame : document.SameFile tree document') {lead : Lead} (hlead : lead ∈ document.leads)
    (hroot : lead.location.root? config.doctypes tree = some root) :
    ∃ lead' ∈ document'.leads, lead'.reference = lead.reference ∧
      lead'.location.place tree = lead.location.place tree ∧
      lead'.location.root? config.doctypes tree = some root := by
  obtain ⟨-, hreference, hjoin⟩ := Document.mem_leads.1 hlead
  obtain ⟨target, hjoin', hplace⟩ := Location.exists_join_of_place_eq hwork (h.root? hmem)
    (h'.root? hmem') hsame.symm hjoin hroot
  rw [h.root_eq hwork h' hmem hmem' hsame] at hreference
  have hlead' : (⟨document', lead.reference, target⟩ : Lead) ∈ document'.leads :=
    Document.mem_leads.2 ⟨rfl, hreference, hjoin'⟩
  obtain ⟨hproper, hfair⟩ := h'.reached (Reached.of_mem_leads hmem' hlead')
  exact ⟨_, hlead', rfl, hplace, Location.root?_of_place_eq hwork hroot hplace hproper hfair⟩

/-- What a document refers to came in, if it can be read. -/
theorem Reader.exists_of_lead (h : Reader config tree asked session)
    (hmem : document ∈ session.library.documents) {lead : Lead} (hlead : lead ∈ document.leads)
    (hroot : lead.location.root? config.doctypes tree = some root) :
    ∃ last ∈ session.library.documents, last.location.place tree = lead.location.place tree := by
  obtain ⟨hproper, -⟩ := h.reached (Reached.of_mem_leads hmem hlead)
  exact h.exists_of_tried hwork hroot hproper
    (h.explored.closed _ (Library.mem_leads_of_mem hmem hlead))

/-- **What a document reaches in one session** is there in the other one, if the document is. -/
theorem Reader.exists_of_reaches (h : Reader config tree asked session)
    (h' : Reader config tree asked other)
    (hmem : document ∈ session.library.documents) (hmem' : document' ∈ other.library.documents)
    (hsame : document.SameFile tree document') {last : Document}
    (hreaches : session.library.Reaches tree document last) :
    last ∈ session.library.documents ∧
      ∃ last' ∈ other.library.documents, last.SameFile tree last' := by
  induction hreaches with
  | refl => exact ⟨hmem, document', hmem', hsame⟩
  | @tail middle last _ hrefers ih =>
    obtain ⟨hmiddle, middle', hmiddle', hsame⟩ := ih
    obtain ⟨hlast, lead, hlead, hidentity⟩ := hrefers
    -- The location that is referred to can be read, as the last document was.
    obtain ⟨hproper, hfair⟩ := h.reached (Reached.of_mem_leads hmiddle hlead)
    have hroot := h.root? hlast
    have hplace := Location.place_eq_of_identity_eq hwork hroot (h.isProper hlast)
      hidentity hproper hfair
    obtain ⟨lead', hlead', -, hplace', hroot'⟩ := h.exists_lead hwork h' hmiddle hmiddle' hsame
      hlead (Location.root?_of_place_eq hwork hroot hplace hproper hfair)
    obtain ⟨last', hlast', hsame'⟩ := h'.exists_of_lead hwork hmiddle' hlead' hroot'
    exact ⟨hlast, last', hlast', ((hsame'.trans hplace').trans hplace).symm⟩

/-- **Two sessions have read at the same places**, if one of them has tried all that the other was
asked for: each document of the other one is there. -/
theorem Reader.exists_counterpart (h : Reader config tree asked session)
    (h' : Reader config tree asked other)
    (htried : ∀ location ∈ asked, location.identity tree ∈ other.library.visited)
    (hmem : document ∈ session.library.documents) :
    ∃ document' ∈ other.library.documents, document.SameFile tree document' := by
  -- A document came in by a reference of one that came in before.
  induction hid : document.id using Nat.strong_induction_on generalizing document with
  | _ n ih =>
    have hroot := h.root? hmem
    have hreached := h.explored.traced.reached document hmem
    unfold Document.SameFile
    generalize document.location = location at hreached hroot ⊢
    generalize session.inherited.lookup document.id = target at hreached
    cases hreached with
    | asked hasked =>
      obtain ⟨document', hmem', hsame⟩ :=
        h'.exists_of_tried hwork hroot (h.proper _ hasked) (htried _ hasked)
      exact ⟨document', hmem', hsame.symm⟩
    | @lead lead hbefore hlead =>
      have hlt := h.explored.traced.numbered.id_lt_of_mem_take hbefore
      have hold := List.mem_of_mem_take hbefore
      obtain ⟨from', hfrom', hsame⟩ := ih _ (hid ▸ hlt) hold rfl
      obtain ⟨lead', hlead', -, hplace, hroot'⟩ :=
        h.exists_lead hwork h' hold hfrom' hsame hlead hroot
      obtain ⟨document', hmem', hsame'⟩ := h'.exists_of_lead hwork hfrom' hlead' hroot'
      exact ⟨document', hmem', (hsame'.trans hplace).symm⟩

omit hwork

/-! ## Schemas -/

/-- Every included schema declares a namespace of its own. -/
def IncludesDeclare (tree : File.Tree) (session : Session) : Prop :=
  ∀ document ∈ session.library.documents, ∀ lead ∈ session.library.leads,
    lead.reference.includedInto ≠ none →
    lead.location.place tree = document.location.place tree →
    ∀ schema ∈ document.root.descendants schemaUri "schema",
      schema.attribute? "targetNamespace" ≠ none

/-- **Then no schema takes a namespace over**, in any session that has read the same files. -/
theorem Reader.namespaceOf_eq (hwork : tree.WorksInside) (h : Reader config tree asked session)
    (h' : Reader config tree asked other)
    (htried : ∀ location ∈ asked, location.identity tree ∈ other.library.visited)
    (hincludes : other.IncludesDeclare tree) (hmem : document ∈ session.library.documents)
    {schema : Xml.Element} (hschema : schema ∈ document.root.descendants schemaUri "schema") :
    session.namespaceOf document schema = schema.attributeD "targetNamespace" := by
  rw [namespaceOf, Xml.Element.attributeD]
  cases hown : schema.attribute? "targetNamespace" with
  | some target => rfl
  | none =>
    have hroot := h.root? hmem
    have hreached := h.reached_document hmem
    obtain ⟨document', hmem', hsame⟩ := h.exists_counterpart hwork h' htried hmem
    have hroots := h.root_eq hwork h' hmem hmem' hsame
    unfold Document.SameFile at hsame
    generalize document.location = location at hreached hroot hsame
    generalize session.inherited.lookup document.id = target at hreached
    cases hreached with
    | asked => rfl
    | @lead lead hfrom hlead =>
      cases htarget : lead.reference.includedInto with
      | none => rfl
      | some target =>
        -- The other session has the same include, and the document is the one it leads to.
        obtain ⟨from', hfrom', hsame'⟩ := h.exists_counterpart hwork h' htried hfrom
        obtain ⟨lead', hlead', href, hplace, -⟩ :=
          h.exists_lead hwork h' hfrom hfrom' hsame' hlead hroot
        refine absurd hown (hincludes document' hmem' lead'
          (Library.mem_leads_of_mem hfrom' hlead') ?_ (hplace.trans hsame) schema
          (hroots ▸ hschema))
        rw [href, htarget]
        exact Option.some_ne_none target

/-- The schemas of a file are the same in two sessions. -/
theorem Reader.contents_eq (hwork : tree.WorksInside) (h : Reader config tree asked session)
    (h' : Reader config tree asked other)
    (htried : ∀ location ∈ asked, location.identity tree ∈ other.library.visited)
    (hincludes : other.IncludesDeclare tree) (hmem : document ∈ session.library.documents)
    (hmem' : document' ∈ other.library.documents) (hsame : document.SameFile tree document') :
    (session.schemasOf document).map Schema.content
      = (other.schemasOf document').map Schema.content := by
  have hcontents : ∀ {s : Session} {d : Document}, Reader config tree asked s →
      d ∈ s.library.documents → (s.schemasOf d).map Schema.content
        = (d.root.descendants schemaUri "schema").map fun schema =>
          (schema, schema.attributeD "targetNamespace") := fun hs hd => by
    rw [schemasOf, Schema.ofDocument, List.map_map]
    refine List.map_congr_left fun schema hschema => ?_
    have htarget := hs.namespaceOf_eq hwork h' htried hincludes hd hschema
    rw [← htarget]
    rfl
  rw [hcontents h hmem, hcontents h' hmem', h.root_eq hwork h' hmem hmem' hsame]

end Session

end WsdlTypes
