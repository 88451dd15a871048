import WsdlTypes.Location
import WsdlTypes.Xml.Document
/-!
# The library of documents

Documents are brought in once each. What was tried is remembered by its identity, also
when it came to nothing, so a second attempt finds it already there whatever became of
the first. Documents are numbered in the order in which they come in.
-/

namespace WsdlTypes

/-- A document that was brought in. -/
structure Document where
  /-- How many documents came before. -/
  id : Nat
  location : Location
  text : String
  root : Xml.Element

/-- What was tried and what came of it. -/
structure Library where
  /-- Accept documents with a document type. -/
  doctypes : Bool
  /-- The identities that were tried. -/
  visited : List String := []
  /-- The documents, in order of their numbers. -/
  documents : List Document := []

/-- What came of asking for a document. -/
inductive LoadOutcome where
  | loaded (document : Document)
  | alreadyLoaded

namespace Library

/-- The document at a location, as the next one of the library. -/
def open? (library : Library) (tree : File.Tree) (location : Location) :
    Except LoadError Document := do
  let text ← location.fetch tree
  match Xml.Element.parse library.doctypes text with
  | .ok root => .ok { id := library.documents.length, location, text, root }
  | .error cause => .error (.malformed location.display cause)

/-- Brings in the document at a location, unless it was tried before. -/
def load (library : Library) (tree : File.Tree) (location : Location) :
    Library × Except LoadError LoadOutcome :=
  let identity := location.identity tree
  if identity ∈ library.visited then (library, .ok .alreadyLoaded)
  else
    let tried := { library with visited := identity :: library.visited }
    match library.open? tree location with
    | .ok document =>
      ({ tried with documents := library.documents ++ [document] }, .ok (.loaded document))
    | .error e => (tried, .error e)

/-- The document of a number. -/
def document? (library : Library) (id : Nat) : Option Document := library.documents[id]?

section

variable {library library' : Library} {tree : File.Tree} {location : Location}

@[simp] theorem doctypes_load :
    (library.load tree location).1.doctypes = library.doctypes := by
  simp only [load]
  split
  · rfl
  · split <;> rfl

/-- What was tried stays tried. -/
theorem visited_subset_load : library.visited ⊆ (library.load tree location).1.visited := by
  simp only [load]
  split
  · exact List.Subset.refl _
  · split <;> exact List.subset_cons_self ..

/-- What is asked for is tried. -/
theorem identity_mem_load :
    location.identity tree ∈ (library.load tree location).1.visited := by
  simp only [load]
  split
  · assumption
  · split <;> exact List.mem_cons_self

/-- A document comes in only where its identity was not tried, and then its text is that of
its location. -/
theorem load_eq_loaded {document : Document}
    (h : library.load tree location = (library', .ok (.loaded document))) :
    location.identity tree ∉ library.visited ∧
      library.open? tree location = .ok document ∧
      library'.visited = location.identity tree :: library.visited ∧
      library'.documents = library.documents ++ [document] := by
  simp only [load] at h
  split at h
  · simp at h
  · rename_i hv
    split at h
    · rename_i d hd
      simp only [Prod.mk.injEq, Except.ok.injEq, LoadOutcome.loaded.injEq] at h
      obtain ⟨rfl, rfl⟩ := h
      exact ⟨hv, hd, rfl, rfl⟩
    · simp at h

/-- What makes a document: a text at the location that can be parsed. -/
theorem open?_eq_ok_iff {document : Document} :
    library.open? tree location = .ok document ↔
      location.fetch tree = .ok document.text ∧
        Xml.Element.parse library.doctypes document.text = .ok document.root ∧
        document.id = library.documents.length ∧ document.location = location := by
  obtain ⟨id, loc, text, root⟩ := document
  unfold open?
  cases hf : location.fetch tree with
  | error e => simp [bind, Except.bind]
  | ok t =>
    simp only [bind, Except.bind, Except.ok.injEq]
    cases hp : Xml.Element.parse library.doctypes t with
    | error e =>
      simp only [reduceCtorEq, false_iff, not_and]
      rintro rfl
      simp [hp]
    | ok r =>
      simp only [Except.ok.injEq, Document.mk.injEq]
      constructor
      · rintro ⟨rfl, rfl, rfl, rfl⟩; exact ⟨rfl, hp, rfl, rfl⟩
      · rintro ⟨rfl, h, rfl, rfl⟩
        rw [hp] at h
        exact ⟨rfl, rfl, rfl, Except.ok.inj h⟩

end

end Library

end WsdlTypes
