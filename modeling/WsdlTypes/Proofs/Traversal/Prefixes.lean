import WsdlTypes.Proofs.Declaration.Prefixes
import WsdlTypes.Proofs.Traversal.Lead
import WsdlTypes.Proofs.Xml.PrefixedText
/-!
# Trees of files under other prefixes

Two trees of files with the same documents under other prefixes (`File.Tree.Renamed`) have their
files at the same paths, what cannot be read or is no document in the one is none in the other, and
so it is with the web. Documents refer to each other by locations, in which there are no prefixes.
So the same references are followed to the same documents, in the same order
(`Traversal.Renamed.run`).
-/

namespace WsdlTypes

variable (ρ : PrefixRenaming) (doctypes : Bool)

/-! ## Files and the web -/

/-- Two documents of the web that are the same, or the same failure. -/
inductive Answer.Renamed : Answer → Answer → Prop where
  | document {text text' : String} (h : RenamedText ρ doctypes text text') :
    Renamed (.document text) (.document text')
  | failure (cause : DownloadError) : Renamed (.failure cause) (.failure cause)

/-- Two states of the web with the same documents at the same URLs. -/
def Web.Renamed (web web' : Web) : Prop :=
  List.Forall₂
    (fun answer answer' => answer'.1 = answer.1 ∧ Answer.Renamed ρ doctypes answer.2 answer'.2)
    web web'

section

variable {ρ doctypes} {web web' : Web}

theorem Web.Renamed.lookup (h : Web.Renamed ρ doctypes web web') (written : String) :
    Option.Rel (Answer.Renamed ρ doctypes) (web.lookup written) (web'.lookup written) := by
  induction h with
  | nil => exact .none
  | @cons answer answer' _ _ hanswer _ ih =>
    obtain ⟨found, answer⟩ := answer
    obtain ⟨found', answer'⟩ := answer'
    obtain ⟨hfound, hanswer⟩ := hanswer
    obtain rfl : found' = found := hfound
    simp only [List.lookup_cons]
    cases written == found'
    · exact ih
    · exact .some hanswer

/-- **What is downloaded is the same document**, or there is none for the same reason. -/
theorem Web.Renamed.download (h : Web.Renamed ρ doctypes web web') (address : Url) :
    Agree Eq (RenamedText ρ doctypes) (address.download web) (address.download web') := by
  unfold Url.download
  cases Url.isOfWeb address.render with
  | false => exact .error rfl
  | true =>
    have hanswer := h.lookup address.render
    simp only [if_true]
    generalize web.lookup address.render = answer?, web'.lookup address.render = answer?'
      at hanswer ⊢
    cases hanswer with
    | none => exact .error rfl
    | some hanswer =>
      cases hanswer with
      | document htext => exact .ok htext
      | failure cause => exact .error rfl

end

namespace File

/-- Two directories, two files that are no text, or two files with the same document. -/
inductive Entry.Renamed : Entry → Entry → Prop where
  | directory : Renamed .directory .directory
  | unreadable : Renamed (.file none) (.file none)
  | file {text text' : String} (h : RenamedText ρ doctypes text text') :
    Renamed (.file (some text)) (.file (some text'))

/-- Two trees with the same documents at the same paths, and on the web. -/
structure Tree.Renamed (tree tree' : Tree) : Prop where
  working : tree'.working = tree.working
  entries : List.Forall₂
    (fun entry entry' => entry'.1 = entry.1 ∧ Entry.Renamed ρ doctypes entry.2 entry'.2)
    tree.entries tree'.entries
  web : Web.Renamed ρ doctypes tree.web tree'.web

namespace Tree

variable {ρ doctypes} {tree tree' : Tree} (h : Renamed ρ doctypes tree tree')

include h in
theorem Renamed.entry? (path : List String) :
    Option.Rel (Entry.Renamed ρ doctypes) (tree.entry? path) (tree'.entry? path) := by
  have hentries := h.entries
  unfold Tree.entry?
  split
  · exact .some .directory
  · generalize tree.entries = l, tree'.entries = l' at hentries
    induction hentries with
    | nil => exact .none
    | @cons entry entry' _ _ hentry _ ih =>
      obtain ⟨found, entry⟩ := entry
      obtain ⟨found', entry'⟩ := entry'
      obtain ⟨hfound, hentry⟩ := hentry
      obtain rfl : found' = found := hfound
      simp only [List.lookup_cons]
      cases path == found'
      · exact ih
      · exact .some hentry

include h in
theorem Renamed.entry?_eq_directory_iff (path : List String) :
    tree'.entry? path = some .directory ↔ tree.entry? path = some .directory := by
  have hentry := h.entry? path
  generalize tree.entry? path = found, tree'.entry? path = found' at hentry
  cases hentry with
  | none => rfl
  | some hentry => cases hentry <;> simp

include h in
/-- Paths are looked up to the same places. -/
theorem Renamed.locate_eq (here parts : List String) :
    tree'.locate here parts = tree.locate here parts := by
  have hnone : ∀ path, (tree'.entry? path).isNone = (tree.entry? path).isNone := fun path => by
    have hentry := h.entry? path
    generalize tree.entry? path = found, tree'.entry? path = found' at hentry
    cases hentry <;> rfl
  induction parts generalizing here with
  | nil => rfl
  | cons part rest ih =>
    simp only [locate, ne_eq, h.entry?_eq_directory_iff, hnone, ih]

include h in
theorem Renamed.resolve_eq (path : String) : tree'.resolve path = tree.resolve path := by
  simp only [resolve, start, h.working, h.locate_eq]

include h in
theorem Renamed.identity_eq (path : String) : tree'.identity path = tree.identity path := by
  have hstart : tree'.start path = tree.start path := by rw [start, start, h.working]
  have hcanonical : tree'.canonicalize path = tree.canonicalize path := by
    rw [canonicalize, canonicalize, h.resolve_eq, hstart]
  rw [identity, identity, hcanonical]

include h in
theorem Renamed.strayError_eq (octets : List Nat) :
    tree'.strayError octets = tree.strayError octets := by
  simp only [strayError, start, h.working, h.locate_eq, ne_eq, h.entry?_eq_directory_iff]

include h in
/-- **What is read is the same document**, or there is none for the same reason. -/
theorem Renamed.read (path : String) :
    Agree Eq (RenamedText ρ doctypes) (tree.read path) (tree'.read path) := by
  have hopened : tree'.opened path = tree.opened path := by
    simp only [opened, h.resolve_eq]
  unfold Tree.read
  rw [hopened]
  refine (Agree.refl (fun _ => rfl) (R := Eq) (fun _ => rfl) (tree.opened path)).bind
    fun canonical canonical' heq => ?_
  subst heq
  have hentry := h.entry? canonical
  generalize tree.entry? canonical = found, tree'.entry? canonical = found' at hentry
  cases hentry with
  | none => exact .error rfl
  | some hentry =>
    cases hentry with
    | directory => exact .error rfl
    | unreadable => exact .error rfl
    | file htext => exact .ok htext

end Tree

end File

namespace Location

variable {ρ doctypes} {tree tree' : File.Tree} (h : File.Tree.Renamed ρ doctypes tree tree')

include h in
theorem identity_eq_of_renamed (location : Location) :
    location.identity tree' = location.identity tree := by
  match location with
  | file (.text path) => exact h.identity_eq path
  | file (.octets _ _) => rfl
  | url _ => rfl

include h in
theorem fetch_of_renamed (location : Location) :
    Agree Eq (RenamedText ρ doctypes) (location.fetch tree) (location.fetch tree') := by
  match location with
  | url address =>
    have hdownload := h.web.download address
    simp only [fetch]
    generalize address.download tree.web = text, address.download tree'.web = text'
      at hdownload ⊢
    cases hdownload with
    | error heq =>
      subst heq
      exact .error rfl
    | ok htext => exact .ok htext
  | file (.octets octets undecodable) =>
    simp only [fetch, h.strayError_eq]
    exact .error rfl
  | file (.text path) =>
    have hread := h.read path
    simp only [fetch]
    generalize tree.read path = text, tree'.read path = text' at hread ⊢
    cases hread with
    | error heq =>
      subst heq
      exact .error rfl
    | ok htext => exact .ok htext

end Location

/-! ## Documents -/

/-- Two documents that are the same but for their texts and prefixes. -/
structure Document.Renamed (document document' : Document) : Prop where
  id : document'.id = document.id
  location : document'.location = document.location
  root : document'.root = document.root.renamed ρ

/-- Two libraries with the same documents, in which the same was tried. -/
structure Library.Renamed (library library' : Library) : Prop where
  doctypes : library'.doctypes = library.doctypes
  visited : library'.visited = library.visited
  documents : List.Forall₂ (Document.Renamed ρ) library.documents library'.documents

/-- The same document came in, or none because it was tried before. -/
inductive LoadOutcome.Renamed : LoadOutcome → LoadOutcome → Prop where
  | loaded {document document' : Document} (h : document.Renamed ρ document') :
    Renamed (.loaded document) (.loaded document')
  | alreadyLoaded : Renamed .alreadyLoaded .alreadyLoaded

namespace Library

variable {ρ} {library library' : Library} {tree tree' : File.Tree}
variable (h : Renamed ρ library library') (htree : File.Tree.Renamed ρ library.doctypes tree tree')

include h htree in
theorem Renamed.open? (location : Location) :
    Agree (fun _ _ => True) (Document.Renamed ρ) (library.open? tree location)
      (library'.open? tree' location) := by
  unfold Library.open?
  refine ((Location.fetch_of_renamed htree location).imp (fun _ _ _ => trivial)
    fun _ _ htext => htext).bind fun text text' htext => ?_
  unfold RenamedText at htext
  rw [h.doctypes]
  generalize Xml.Element.parse library.doctypes text = outcome,
    Xml.Element.parse library.doctypes text' = outcome' at htext
  cases htext with
  | error => exact .error trivial
  | ok hroot => exact .ok ⟨h.documents.length_eq.symm, rfl, hroot⟩

include h htree in
/-- **The same comes of asking for a location.** -/
theorem Renamed.load (location : Location) :
    Renamed ρ (library.load tree location).1 (library'.load tree' location).1 ∧
      Agree (fun _ _ => True) (LoadOutcome.Renamed ρ) (library.load tree location).2
        (library'.load tree' location).2 := by
  have hopen := h.open? htree location
  have hidentity := Location.identity_eq_of_renamed htree location
  by_cases htried : location.identity tree ∈ library.visited
  · have htried' : location.identity tree' ∈ library'.visited := by rwa [hidentity, h.visited]
    simp only [Library.load, if_pos htried, if_pos htried']
    exact ⟨h, .ok .alreadyLoaded⟩
  · have htried' : location.identity tree' ∉ library'.visited := by rwa [hidentity, h.visited]
    simp only [Library.load, if_neg htried, hidentity, h.visited]
    generalize library.open? tree location = outcome,
      library'.open? tree' location = outcome' at hopen ⊢
    cases hopen with
    | error => exact ⟨⟨h.doctypes, rfl, h.documents⟩, .error trivial⟩
    | ok hdocument =>
      refine ⟨⟨h.doctypes, rfl, ?_⟩, .ok (.loaded hdocument)⟩
      exact List.rel_append h.documents (.cons hdocument .nil)

include h htree in
theorem Renamed.follow {document document' : Document} (hdocument : document.Renamed ρ document')
    (reference : DocumentReference) :
    Renamed ρ (library.follow tree document reference).1
        (library'.follow tree' document' reference).1 ∧
      Agree (fun _ _ => True) (LoadOutcome.Renamed ρ)
        (library.follow tree document reference).2
        (library'.follow tree' document' reference).2 := by
  unfold Library.follow
  rw [hdocument.location]
  cases document.location.join reference.location with
  | ok location => exact h.load htree location
  | error cause => exact ⟨h, .error trivial⟩

end Library

/-! ## References between documents -/

namespace DocumentReference

variable (root : Xml.Element)

theorem ofDefinitions_renamed : ofDefinitions (root.renamed ρ) = ofDefinitions root := by
  simp only [ofDefinitions, Xml.Element.children_renamed, List.filterMap_map]
  congr 1
  funext e
  simp only [Function.comp_apply, Xml.Element.line_renamed,
    e.attribute?_renamed_of_not_mem ρ "location" (by decide)]

theorem ofSchema_renamed : ofSchema (root.renamed ρ) = ofSchema root := by
  simp only [ofSchema, Xml.Element.elements_renamed, List.filterMap_map,
    root.attributeD_renamed_of_not_mem ρ "targetNamespace" (by decide)]
  congr 1
  funext e
  simp only [Function.comp_apply, ofSchemaChild?, Xml.Element.hasTag_renamed,
    Xml.Element.line_renamed,
    e.attribute?_renamed_of_not_mem ρ "schemaLocation" (by decide)]

/-- **Documents refer to the same locations.** -/
theorem ofRoot_renamed : ofRoot (root.renamed ρ) = ofRoot root := by
  simp only [ofRoot, isDefinitions, Xml.Element.hasTag_renamed, ofDefinitions_renamed,
    Xml.Element.descendants_renamed, List.flatMap_map, funext (ofSchema_renamed ρ)]
  rfl

end DocumentReference

/-! ## Traversals -/

/-- Two documents that are the same but for prefixes, with the same references pending. -/
structure Frame.Renamed (frame frame' : Frame) : Prop where
  document : frame.document.Renamed ρ frame'.document
  pending : frame'.pending = frame.pending

/-- Two traversals that have come equally far. -/
structure Traversal.Renamed (t t' : Traversal) : Prop where
  library : t.library.Renamed ρ t'.library
  inherited : t'.inherited = t.inherited
  findings : List.Forall₂ (Finding.Matches .prefixes) t.findings t'.findings
  order : t'.order = t.order
  stack : List.Forall₂ (Frame.Renamed ρ) t.stack t'.stack

variable {ρ} in
theorem Frame.Renamed.enter {document document' : Document} (h : document.Renamed ρ document') :
    (Frame.enter document).Renamed ρ (Frame.enter document') where
  document := h
  pending := by simp only [Frame.enter, h.root, DocumentReference.ofRoot_renamed]

namespace Traversal

variable {ρ} {t t' : Traversal} {tree tree' : File.Tree}

/-- A reference is followed alike. -/
theorem Renamed.follow (h : t.Renamed ρ t')
    (htree : File.Tree.Renamed ρ t.library.doctypes tree tree') {document document' : Document}
    (hdocument : document.Renamed ρ document') (reference : DocumentReference) :
    (t.follow tree document reference).Renamed ρ (t'.follow tree' document' reference) := by
  obtain ⟨hlibrary, houtcome⟩ := h.library.follow htree hdocument reference
  unfold Traversal.follow
  generalize t.library.follow tree document reference = found,
    t'.library.follow tree' document' reference = found' at hlibrary houtcome ⊢
  obtain ⟨library, outcome⟩ := found
  obtain ⟨library', outcome'⟩ := found'
  dsimp only at hlibrary houtcome
  cases houtcome with
  | error =>
    refine ⟨hlibrary, h.inherited, ?_, h.order, h.stack⟩
    refine List.rel_append h.findings (.cons ⟨rfl, ?_, rfl⟩ .nil)
    rw [hdocument.location]
  | ok houtcome =>
    cases houtcome with
    | alreadyLoaded => exact ⟨hlibrary, h.inherited, h.findings, h.order, h.stack⟩
    | loaded hfound =>
      refine ⟨hlibrary, ?_, h.findings, h.order, .cons (.enter hfound) h.stack⟩
      simp only [Traversal.take, Traversal.enter, h.inherited, hfound.id]

/-- **A step is the same.** -/
theorem Renamed.step (h : t.Renamed ρ t')
    (htree : File.Tree.Renamed ρ t.library.doctypes tree tree') {frame frame' : Frame}
    {outer outer' : List Frame} (hframe : frame.Renamed ρ frame')
    (houter : List.Forall₂ (Frame.Renamed ρ) outer outer') :
    (t.step tree frame outer).Renamed ρ (t'.step tree' frame' outer') := by
  unfold Traversal.step
  rw [hframe.pending]
  cases frame.pending with
  | nil =>
    refine ⟨h.library, h.inherited, h.findings, ?_, houter⟩
    simp only [h.order, hframe.document.id]
  | cons reference pending =>
    have hadvanced : Renamed ρ { t with stack := { frame with pending } :: outer }
        { t' with stack := { frame' with pending } :: outer' } :=
      { h with stack := .cons ⟨hframe.document, rfl⟩ houter }
    exact hadvanced.follow htree hframe.document reference

/-- **And so is the whole way.** -/
theorem Renamed.run (h : t.Renamed ρ t')
    (htree : File.Tree.Renamed ρ t.library.doctypes tree tree') :
    (run tree t).Renamed ρ (run tree' t') := by
  -- By induction on how many steps are left of the first traversal.
  induction hn : t.measure tree using Nat.strongRecOn generalizing t t' with
  | _ n ih =>
    have hstack := h.stack
    cases hfirst : t.stack with
    | nil =>
      rw [hfirst, List.forall₂_nil_left_iff] at hstack
      rwa [run_of_stack_nil hfirst, run_of_stack_nil hstack]
    | cons frame outer =>
      rw [hfirst, List.forall₂_cons_left_iff] at hstack
      obtain ⟨frame', outer', hframe, houter, hsecond⟩ := hstack
      rw [run_of_stack_cons hfirst, run_of_stack_cons hsecond]
      have hlt : (t.step tree frame outer).measure tree < n := hn ▸ measure_step_lt hfirst
      refine ih _ hlt (h.step htree hframe houter) ?_ rfl
      rwa [doctypes_move (move_step hfirst)]

end Traversal

end WsdlTypes
