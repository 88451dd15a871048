import Mathlib.Data.List.Nodup
import WsdlTypes.Library
/-!
# What comes of asking for a document

A document that comes in gets the next number and is what is read at its location
(`load_eq_loaded_append`, `exists_load_eq_loaded`); where none comes in the documents stay as
they are. So the documents of a library are numbered in the order in which they came in
(`Numbered`), and where they came from one tree of files each is read from a file of its own
(`Sourced`).
-/

namespace WsdlTypes

/-- The root of the document that is read at a location, if one is. -/
def Location.root? (doctypes : Bool) (tree : File.Tree) (location : Location) :
    Option Xml.Element :=
  (location.fetch tree).toOption.bind fun text => (Xml.Element.parse doctypes text).toOption

namespace Library

variable {library library' : Library} {tree : File.Tree} {location : Location}
variable {document : Document} {cause : LoadError}

/-- Where a document was tried before, nothing changes. -/
theorem load_eq_alreadyLoaded
    (h : library.load tree location = (library', .ok .alreadyLoaded)) :
    location.identity tree ∈ library.visited ∧ library' = library := by
  simp only [load] at h
  split at h
  · rename_i hv
    exact ⟨hv, by simpa using h.symm⟩
  · split at h <;> simp at h

/-- A document that cannot be brought in counts as tried, and nothing else changes. -/
theorem load_eq_error (h : library.load tree location = (library', .error cause)) :
    location.identity tree ∉ library.visited ∧ library.open? tree location = .error cause ∧
      library' = { library with visited := location.identity tree :: library.visited } := by
  simp only [load] at h
  split at h
  · simp at h
  · rename_i hv
    split at h
    · simp at h
    · rename_i e he
      simp only [Prod.mk.injEq, Except.error.injEq] at h
      obtain ⟨rfl, rfl⟩ := h
      exact ⟨hv, he, rfl⟩

/-- Where no document comes in, the documents stay. -/
theorem documents_load_of_alreadyLoaded
    (h : library.load tree location = (library', .ok .alreadyLoaded)) :
    library'.documents = library.documents := by
  rw [(load_eq_alreadyLoaded h).2]

theorem documents_load_of_error
    (h : library.load tree location = (library', .error cause)) :
    library'.documents = library.documents := by
  rw [(load_eq_error h).2.2]

/-! ## Numbers -/

/-- Documents are numbered in the order in which they came in. -/
def Numbered (library : Library) : Prop :=
  library.documents.map Document.id = List.range library.documents.length

/-- No two documents have one number. -/
theorem Numbered.nodup_ids (h : library.Numbered) :
    (library.documents.map Document.id).Nodup := by
  rw [Numbered] at h
  rw [h]
  exact List.nodup_range

/-- The next document gets the next number. -/
theorem Numbered.append (h : library.Numbered) (hid : document.id = library.documents.length)
    (hdocuments : library'.documents = library.documents ++ [document]) :
    library'.Numbered := by
  rw [Numbered] at h ⊢
  rw [hdocuments, List.map_append, h, List.length_append, List.length_singleton,
    List.range_succ, List.map_singleton, hid]

/-- A document that comes in is the last one and carries their number. -/
theorem load_eq_loaded_append
    (h : library.load tree location = (library', .ok (.loaded document))) :
    document.id = library.documents.length ∧
      library'.documents = library.documents ++ [document] := by
  obtain ⟨-, hopen, -, hdocuments⟩ := load_eq_loaded h
  exact ⟨(open?_eq_ok_iff.1 hopen).2.2.1, hdocuments⟩

theorem Numbered.of_documents_eq (h : library.Numbered)
    (hdocuments : library'.documents = library.documents) : library'.Numbered := by
  rw [Numbered, hdocuments]
  exact h

/-- The number of a document is less than that of the next one. -/
theorem Numbered.id_lt (h : library.Numbered) (hmem : document ∈ library.documents) :
    document.id < library.documents.length := by
  have hid := List.mem_map_of_mem (f := Document.id) hmem
  rw [h] at hid
  exact List.mem_range.1 hid

/-! ## Files -/

theorem root?_of_open?_eq_ok (h : library.open? tree location = .ok document) :
    location.root? library.doctypes tree = some document.root := by
  obtain ⟨hfetch, hparse, -, -⟩ := open?_eq_ok_iff.1 h
  rw [Location.root?, hfetch]
  show (Xml.Element.parse library.doctypes document.text).toOption = some document.root
  rw [hparse]
  rfl

theorem root?_of_open?_eq_error (h : library.open? tree location = .error cause) :
    location.root? library.doctypes tree = none := by
  unfold Location.root?
  cases hfetch : location.fetch tree with
  | error => rfl
  | ok text =>
    cases hparse : Xml.Element.parse library.doctypes text with
    | error => simp [Except.toOption, hparse]
    | ok root => simp [open?, hfetch, hparse, bind, Except.bind] at h

/-- A document that can be read comes in, unless its file was tried. -/
theorem exists_load_eq_loaded (hnew : location.identity tree ∉ library.visited)
    {root : Xml.Element} (hroot : location.root? library.doctypes tree = some root) :
    ∃ library' document, library.load tree location = (library', .ok (.loaded document)) ∧
      document.root = root ∧ document.location = location := by
  cases hopen : library.open? tree location with
  | error cause =>
    rw [root?_of_open?_eq_error hopen] at hroot
    cases hroot
  | ok document =>
    rw [root?_of_open?_eq_ok hopen, Option.some.injEq] at hroot
    refine ⟨(library.load tree location).1, document, ?_, hroot,
      (open?_eq_ok_iff.1 hopen).2.2.2⟩
    simp only [load, if_neg hnew, hopen]

/-- A document that cannot be read only counts as tried. -/
theorem exists_load_eq_error (hnew : location.identity tree ∉ library.visited)
    (hroot : location.root? library.doctypes tree = none) :
    ∃ cause, library.load tree location
      = ({ library with visited := location.identity tree :: library.visited }, .error cause) := by
  cases hopen : library.open? tree location with
  | ok document =>
    rw [root?_of_open?_eq_ok hopen] at hroot
    cases hroot
  | error cause => exact ⟨cause, by simp only [load, if_neg hnew, hopen]⟩

/-- Whatever comes of asking for a document, documents with a document type are accepted as
before. -/
theorem doctypes_of_load {outcome : Except LoadError LoadOutcome}
    (h : library.load tree location = (library', outcome)) :
    library'.doctypes = library.doctypes := by
  have hsame : (library.load tree location).1.doctypes = library.doctypes := doctypes_load
  rwa [h] at hsame

/-- The documents of a library are what is read at their locations, and no two of them are in
one file. -/
structure Sourced (tree : File.Tree) (library : Library) : Prop where
  read : ∀ d ∈ library.documents, d.location.root? library.doctypes tree = some d.root
  tried : ∀ d ∈ library.documents, d.location.identity tree ∈ library.visited
  distinct : (library.documents.map fun d => d.location.identity tree).Nodup

/-- A document that comes in is read at its location, from a file that was not tried. -/
theorem Sourced.loaded (h : library.Sourced tree)
    (hload : library.load tree location = (library', .ok (.loaded document))) :
    library'.Sourced tree := by
  obtain ⟨hnew, hopen, hvisited, hdocuments⟩ := load_eq_loaded hload
  have hlocation := (open?_eq_ok_iff.1 hopen).2.2.2
  have hdoctypes := doctypes_of_load hload
  constructor
  · intro d hd
    rw [hdocuments] at hd
    rw [hdoctypes]
    rcases List.mem_append.1 hd with hd | hd
    · exact h.read d hd
    · rw [List.mem_singleton.1 hd, hlocation]
      exact root?_of_open?_eq_ok hopen
  · intro d hd
    rw [hdocuments] at hd
    rw [hvisited]
    rcases List.mem_append.1 hd with hd | hd
    · exact List.mem_cons_of_mem _ (h.tried d hd)
    · rw [List.mem_singleton.1 hd, hlocation]
      exact List.mem_cons_self
  · rw [hdocuments, List.map_append, List.map_singleton, hlocation]
    refine (List.perm_append_singleton _ _).nodup_iff.2 (List.nodup_cons.2 ⟨?_, h.distinct⟩)
    intro hold
    obtain ⟨d, hd, heq⟩ := List.mem_map.1 hold
    exact hnew (heq ▸ h.tried d hd)

/-- Files that are tried in vain change no document. -/
theorem Sourced.of_visited_subset (h : library.Sourced tree) {visited : List String}
    (hvisited : library.visited ⊆ visited) : Sourced tree { library with visited } :=
  ⟨h.read, fun d hd => hvisited (h.tried d hd), h.distinct⟩

/-- Two documents of a file are one. -/
theorem Sourced.eq_of_identity_eq (h : library.Sourced tree) {d d' : Document}
    (hd : d ∈ library.documents) (hd' : d' ∈ library.documents)
    (heq : d.location.identity tree = d'.location.identity tree) : d = d' :=
  List.inj_on_of_nodup_map h.distinct hd hd' heq

end Library

end WsdlTypes
