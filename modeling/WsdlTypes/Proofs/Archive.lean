import WsdlTypes.Proofs.Location
/-!
# Libraries while files change

Between two loads files may come, change and go, so one file may be asked for under several
identities in turn: its canonical path while it is there, and the path as written while it is
not. A document comes in only while its file is there, though, and then it is the canonical
path that counts as tried, if it can be worked out. So of all files whose canonical path could be
worked out none gives two documents, whatever happens in between
(`Archive.one_document_per_file`). Where it cannot, a file gives one document for every spelling
(`Archive.deep_file_comes_in_twice`).
-/

namespace WsdlTypes

/-- The canonical path of the file at a location, while it is there. -/
def Location.canonical? (tree : File.Tree) : Location → Option (List String)
  | file (.text path) => (tree.resolve path).toOption
  | _ => none

/-- It is written like the place of the location. -/
theorem Location.place_of_canonical? {tree : File.Tree} {location : Location}
    {canonical : List String} (h : location.canonical? tree = some canonical) :
    location.place tree = File.Tree.render canonical := by
  match location with
  | file (.text path) =>
    cases hresolve : tree.resolve path with
    | error cause => simp [canonical?, hresolve, Except.toOption] at h
    | ok found =>
      have hfound : found = canonical := by simpa [canonical?, hresolve, Except.toOption] using h
      rw [← hfound]
      exact File.Tree.place_of_resolve hresolve
  | file (.octets _ _) => cases h
  | url _ => cases h

/-- A text is fetched from a file that is there, or from the web. -/
theorem Location.exists_of_fetch {tree : File.Tree} {location : Location} {text : String}
    (h : location.fetch tree = .ok text) :
    (∃ canonical, location.canonical? tree = some canonical ∧
        tree.entry? canonical = some (.file (some text))) ∨
      ∃ address, location = url address ∧ Url.isOfWeb address.render = true ∧
        tree.web.lookup address.render = some (.document text) := by
  rcases fetch_eq_ok_iff.1 h with ⟨path, rfl, hread⟩ | ⟨address, rfl, hdownload⟩
  · obtain ⟨canonical, hopened, hentry⟩ := File.Tree.read_eq_ok_iff.1 hread
    have hresolve := File.Tree.resolve_eq_of_opened hopened
    refine Or.inl ⟨canonical, ?_, hentry⟩
    rw [canonical?, hresolve]
    rfl
  · exact Or.inr ⟨address, rfl, Url.download_eq_ok_iff.1 hdownload⟩

/-- The files as they are, and the library that is filled from them. -/
structure Archive where
  tree : File.Tree
  library : Library

/-- A document that came in, and the files as they were then. -/
structure Arrival where
  tree : File.Tree
  document : Document

namespace Arrival

/-- The file that the document was read from, by its canonical path at that time. -/
def file? (arrival : Arrival) : Option (List String) :=
  arrival.document.location.canonical? arrival.tree

/-- What the document was known by at that time. -/
def identity (arrival : Arrival) : String := arrival.document.location.identity arrival.tree

/-- The document was known by the place of its file. -/
def IsKnownByPlace (arrival : Arrival) : Prop :=
  arrival.document.location.IsKnownByPlace arrival.tree

instance (arrival : Arrival) : Decidable arrival.IsKnownByPlace :=
  inferInstanceAs (Decidable (Location.IsKnownByPlace _ _))

/-- The text of the document is that of its file, or what the web had. -/
def IsRead (arrival : Arrival) : Prop :=
  (∃ canonical, arrival.file? = some canonical ∧
      arrival.tree.entry? canonical = some (.file (some arrival.document.text))) ∨
    ∃ address, arrival.document.location = .url address ∧ Url.isOfWeb address.render = true ∧
      arrival.tree.web.lookup address.render = some (.document arrival.document.text)

/-- Two documents of one file that are known by its place are known by the same. -/
theorem identity_eq_of_file?_eq {arrival other : Arrival} {canonical : List String}
    (hfile : arrival.file? = some canonical) (hfile' : other.file? = some canonical)
    (h : arrival.IsKnownByPlace) (h' : other.IsKnownByPlace) :
    arrival.identity = other.identity := by
  have hplace := Location.place_of_canonical? hfile
  have hplace' := Location.place_of_canonical? hfile'
  rw [identity, identity, h, h', hplace, hplace']

end Arrival

namespace Archive

/-- What may happen: files are created, overwritten, removed or changed in any other way, or a
document is asked for. -/
inductive Event where
  | edit (change : File.Tree → File.Tree)
  | load (location : Location)

variable {archive : Archive} {past : List Arrival}

/-- What comes of asking for a document. -/
def load (archive : Archive) (location : Location) : Library × Except LoadError LoadOutcome :=
  archive.library.load archive.tree location

/-- The archive after an event. -/
def step (archive : Archive) : Event → Archive
  | .edit change => { archive with tree := change archive.tree }
  | .load location => { archive with library := (archive.load location).1 }

/-- The archive after some events. -/
def run (archive : Archive) (events : List Event) : Archive := events.foldl step archive

/-- The document that an event brings in, if it does. -/
def arrival? (archive : Archive) : Event → Option Arrival
  | .edit _ => none
  | .load location =>
    match (archive.load location).2 with
    | .ok (.loaded document) => some { tree := archive.tree, document }
    | _ => none

/-- The documents that some events bring in, in order. -/
def arrivals (archive : Archive) : List Event → List Arrival
  | [] => []
  | event :: rest => (archive.arrival? event).toList ++ (archive.step event).arrivals rest

/-- What is known of an archive and of the documents that came in. -/
structure Recorded (past : List Arrival) (archive : Archive) : Prop where
  documents : archive.library.documents = past.map Arrival.document
  numbered : archive.library.Numbered
  read : ∀ arrival ∈ past, arrival.IsRead
  /-- What a document was known by counts as tried. -/
  tried : ∀ arrival ∈ past, arrival.identity ∈ archive.library.visited
  distinct : (past.map Arrival.identity).Nodup

/-- Nothing is known where nothing came in. -/
theorem recorded_empty (tree : File.Tree) (doctypes : Bool) :
    Recorded [] { tree, library := { doctypes } } :=
  ⟨rfl, rfl, fun _ h => absurd h List.not_mem_nil, fun _ h => absurd h List.not_mem_nil,
    List.nodup_nil⟩

/-- What is tried in vain, or tried before, brings nothing in. -/
theorem Recorded.of_documents_eq (h : Recorded past archive) {next : Archive}
    (hdocuments : next.library.documents = archive.library.documents)
    (hvisited : archive.library.visited ⊆ next.library.visited) : Recorded past next where
  documents := hdocuments.trans h.documents
  numbered := h.numbered.of_documents_eq hdocuments
  read := h.read
  tried arrival harrival := hvisited (h.tried arrival harrival)
  distinct := h.distinct

/-- **A document comes in under an identity that none came in under before**: what it is known by
counts as tried ever since. -/
theorem Recorded.loaded (h : Recorded past archive) {location : Location} {library : Library}
    {document : Document} (hload : archive.load location = (library, .ok (.loaded document))) :
    Recorded (past ++ [⟨archive.tree, document⟩]) { archive with library } := by
  obtain ⟨hnew, hopen, hvisited, hdocuments⟩ := Library.load_eq_loaded hload
  obtain ⟨hfetch, -, hid, rfl⟩ := Library.open?_eq_ok_iff.1 hopen
  constructor
  case documents => rw [hdocuments, h.documents, List.map_append, List.map_singleton]
  case numbered => exact h.numbered.append hid hdocuments
  case read =>
    intro arrival harrival
    rcases List.mem_append.1 harrival with hold | hlast
    · exact h.read arrival hold
    · rw [List.mem_singleton.1 hlast]
      exact Location.exists_of_fetch hfetch
  case tried =>
    intro arrival harrival
    rw [hvisited]
    rcases List.mem_append.1 harrival with hold | hlast
    · exact List.mem_cons_of_mem _ (h.tried arrival hold)
    · rw [List.mem_singleton.1 hlast]
      exact List.mem_cons_self
  case distinct =>
    rw [List.map_append, List.map_singleton]
    refine (List.perm_append_singleton _ _).nodup_iff.2 (List.nodup_cons.2 ⟨?_, h.distinct⟩)
    intro hold
    obtain ⟨arrival, harrival, hsame⟩ := List.mem_map.1 hold
    have htried := h.tried arrival harrival
    rw [hsame] at htried
    exact hnew htried

/-- **Every event is recorded.** -/
theorem Recorded.step (h : Recorded past archive) (event : Event) :
    Recorded (past ++ (archive.arrival? event).toList) (archive.step event) := by
  cases event with
  | edit change =>
    rw [arrival?, Option.toList_none, List.append_nil]
    exact h.of_documents_eq rfl (List.Subset.refl _)
  | load location =>
    rcases hload : archive.load location with ⟨library, outcome⟩
    simp only [arrival?, Archive.step, hload]
    have hvisited : archive.library.visited ⊆ library.visited := by
      have hsubset : archive.library.visited ⊆ (archive.load location).1.visited :=
        Library.visited_subset_load
      rwa [hload] at hsubset
    match outcome with
    | .ok (.loaded document) => exact h.loaded hload
    | .ok .alreadyLoaded =>
      rw [Option.toList_none, List.append_nil]
      exact h.of_documents_eq (Library.documents_load_of_alreadyLoaded hload) hvisited
    | .error cause =>
      rw [Option.toList_none, List.append_nil]
      exact h.of_documents_eq (Library.documents_load_of_error hload) hvisited

theorem Recorded.run (h : Recorded past archive) (events : List Event) :
    Recorded (past ++ archive.arrivals events) (archive.run events) := by
  induction events generalizing archive past with
  | nil =>
    rw [Archive.arrivals, List.append_nil]
    exact h
  | cons event rest ih =>
    rw [Archive.arrivals, ← List.append_assoc]
    exact ih (h.step event)

/-- So the documents stay, under their numbers. -/
theorem Recorded.documents_prefix (h : Recorded past archive) (events : List Event) :
    archive.library.documents <+: (archive.run events).library.documents := by
  rw [h.documents, (h.run events).documents, List.map_append]
  exact List.prefix_append _ _

/-- **No file gives two documents that are known by its place.** -/
theorem Recorded.nodup_files (h : Recorded past archive) :
    ((past.filter fun arrival => arrival.IsKnownByPlace).filterMap Arrival.file?).Nodup := by
  have hdistinct : (past.filter fun arrival => arrival.IsKnownByPlace).Pairwise
      fun a b => a.identity ≠ b.identity := (List.pairwise_map.1 h.distinct).filter _
  refine List.pairwise_filterMap.2 (hdistinct.imp_of_mem fun {a b} ha hb hne => ?_)
  intro canonical hfile canonical' hfile' heq
  have hknown : a.IsKnownByPlace := by simpa using (List.mem_filter.1 ha).2
  have hknown' : b.IsKnownByPlace := by simpa using (List.mem_filter.1 hb).2
  rw [← heq] at hfile'
  exact hne (Arrival.identity_eq_of_file?_eq hfile hfile' hknown hknown')

/-- **No file gives two documents** that are known by its place. Let documents be asked for one
after the other, at whatever locations and in whatever spellings, while files are created,
overwritten and removed in between. The documents are those that came in, in order; each was read
from a file that was there under a canonical path at that time, or from the web, and no two of them
were known by the same. So no two were read from one file under the same canonical path, unless
this path could not be worked out from the spelling of one of them, which is never so where all
canonical paths are short. A document that comes in has as its number how many there were before,
is kept under this number, and what else is asked for brings none in; and whatever happens later,
the documents that are there stay where they are, numbered in their order. -/
theorem one_document_per_file (doctypes : Bool) (tree : File.Tree) (events : List Event) :
    let start : Archive := { tree, library := { doctypes } }
    let archive := start.run events
    let arrivals := start.arrivals events
    archive.library.documents = arrivals.map Arrival.document ∧
      (∀ arrival ∈ arrivals, arrival.IsRead) ∧
      (arrivals.map Arrival.identity).Nodup ∧
      ((arrivals.filter fun arrival => arrival.IsKnownByPlace).filterMap Arrival.file?).Nodup ∧
      ((∀ arrival ∈ arrivals, arrival.tree.IsShallow) → (arrivals.filterMap Arrival.file?).Nodup) ∧
      (∀ location,
        match archive.load location with
        | (library, .ok (.loaded document)) =>
          document.id = archive.library.documents.length ∧
            library.documents = archive.library.documents ++ [document]
        | (library, _) => library.documents = archive.library.documents) ∧
      ∀ more : List Event,
        archive.library.documents <+: (archive.run more).library.documents ∧
          (archive.run more).library.documents.map Document.id
            = List.range (archive.run more).library.documents.length := by
  intro start archive arrivals
  have hrecorded : Recorded arrivals archive := (recorded_empty tree doctypes).run events
  refine ⟨hrecorded.documents, hrecorded.read, hrecorded.distinct, hrecorded.nodup_files,
    fun hshallow => ?_, fun location => ?_, fun more => ⟨hrecorded.documents_prefix more,
      (hrecorded.run more).numbered⟩⟩
  · have hall : (arrivals.filter fun arrival => arrival.IsKnownByPlace) = arrivals :=
      List.filter_eq_self.2 fun arrival harrival =>
        decide_eq_true (Location.isKnownByPlace_of_isShallow (hshallow arrival harrival) _)
    have hnodup := hrecorded.nodup_files
    rwa [hall] at hnodup
  · rcases hload : archive.load location with ⟨library, outcome⟩
    match outcome with
    | .ok (.loaded document) => exact Library.load_eq_loaded_append hload
    | .ok .alreadyLoaded => exact Library.documents_load_of_alreadyLoaded hload
    | .error cause => exact Library.documents_load_of_error hload

/-- A file that is asked for before it is there, then read, removed, asked for in another
spelling and written anew gives one document. -/
example :
    let write (text : String) : Event := .edit fun tree => tree.write "a" (some text)
    let load (path : String) : Event := .load (.file path)
    let start : Archive := { tree := .ofWorking [], library := { doctypes := false } }
    (start.run [load "a", write "<r/>", load "a", .edit fun tree => tree.remove "a", load "./a",
      write "<s/>", load "./a"]).library.documents.map Document.text = ["<r/>"] := by
  decide +kernel

/-- **A file whose canonical path cannot be worked out comes in once for every spelling** by which
it can be opened. -/
theorem deep_file_comes_in_twice :
    let tree := File.Tree.deepFile "<r/>"
    let start : Archive := { tree, library := { doctypes := false } }
    let arrivals := start.arrivals [.load (.file "a"), .load (.file "./a")]
    tree.WorksInside ∧
      arrivals.map Arrival.file? = List.replicate 2 (some (File.Tree.deepDirectory ++ ["a"])) := by
  intro tree start arrivals
  obtain ⟨-, hresolve, hread, hidentity⟩ :=
    Location.deepFile_spellings false "<r/>" "a" (by decide)
  obtain ⟨-, hresolve', hread', hidentity'⟩ :=
    Location.deepFile_spellings false "<r/>" "./a" (by decide)
  obtain ⟨root, hparse⟩ : ∃ root, (Xml.Element.parse false "<r/>").toOption = some root :=
    Option.isSome_iff_exists.1 (by decide +kernel)
  -- The first document comes in under its own spelling, so the second one is new.
  have huntried : (Location.file "a").identity tree ∉ start.library.visited := List.not_mem_nil
  obtain ⟨library, first, hload, -, hfirst⟩ :=
    Library.exists_load_eq_loaded huntried (hread.trans hparse)
  obtain ⟨-, -, hvisited, -⟩ := Library.load_eq_loaded hload
  have hnew : (Location.file "./a").identity tree ∉ library.visited := by
    rw [hvisited, hidentity, hidentity']
    decide
  have hdoctypes : library.doctypes = false := Library.doctypes_of_load hload
  obtain ⟨library', second, hload', -, hsecond⟩ :=
    Library.exists_load_eq_loaded hnew (hdoctypes ▸ hread'.trans hparse)
  have harrivals : arrivals = [⟨tree, first⟩, ⟨tree, second⟩] := by
    have hstep : start.load (.file "a") = (library, .ok (.loaded first)) := hload
    have hstep' : Archive.load { start with library } (.file "./a")
        = (library', .ok (.loaded second)) := hload'
    simp only [arrivals, Archive.arrivals, arrival?, step, hstep, hstep']
    rfl
  refine ⟨File.Tree.worksInside_deepFile, ?_⟩
  rw [harrivals]
  simp only [List.map_cons, List.map_nil, Arrival.file?, hfirst, hsecond]
  rw [Location.canonical?, Location.canonical?, hresolve, hresolve']
  rfl

end Archive

end WsdlTypes
