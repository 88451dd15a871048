import Mathlib.Logic.Relation
import WsdlTypes.Proofs.Traversal.Order
/-!
# References that are followed

A reference that names a location leads there (`Lead`), be there a document or not. While a
traversal runs each of them is to be followed still, or what it leads to was tried
(`Followed`): a move follows the next one, and a document that comes in brings its own. So a
library that is closed under its references is closed again at the end
(`Followed.closed`).
-/

namespace WsdlTypes

/-- A reference of a document, with the location that it leads to. -/
structure Lead where
  document : Document
  reference : DocumentReference
  location : Location

/-- The references of a document that name a location, be there a document or not. -/
def Document.leads (document : Document) : List Lead :=
  (DocumentReference.ofRoot document.root).filterMap fun reference =>
    (document.location.join reference.location).toOption.map fun location =>
      ⟨document, reference, location⟩

theorem Document.mem_leads {document : Document} {lead : Lead} :
    lead ∈ document.leads ↔
      lead.document = document ∧ lead.reference ∈ DocumentReference.ofRoot document.root ∧
        document.location.join lead.reference.location = .ok lead.location := by
  rw [leads, List.mem_filterMap]
  constructor
  · rintro ⟨reference, hmem, h⟩
    cases hjoin : document.location.join reference.location with
    | error cause => simp [hjoin, Except.toOption] at h
    | ok location =>
      simp only [hjoin, Except.toOption, Option.map_some, Option.some.injEq] at h
      rw [← h]
      exact ⟨rfl, hmem, hjoin⟩
  · rintro ⟨rfl, hmem, hjoin⟩
    exact ⟨lead.reference, hmem, by rw [hjoin]; rfl⟩

namespace Library

variable {library library' : Library} {tree : File.Tree} {location : Location}
variable {document : Document} {reference : DocumentReference}

/-- The references of all documents that name a location. -/
def leads (library : Library) : List Lead := library.documents.flatMap Document.leads

theorem mem_leads {lead : Lead} :
    lead ∈ library.leads ↔ lead.document ∈ library.documents ∧ lead ∈ lead.document.leads := by
  rw [leads, List.mem_flatMap]
  constructor
  · rintro ⟨document, hmem, hlead⟩
    obtain rfl := (Document.mem_leads.1 hlead).1
    exact ⟨hmem, hlead⟩
  · rintro ⟨hmem, hlead⟩
    exact ⟨lead.document, hmem, hlead⟩

/-- More documents have more references. -/
theorem leads_subset (h : library.documents ⊆ library'.documents) :
    library.leads ⊆ library'.leads := by
  intro lead hlead
  obtain ⟨hmem, hlead⟩ := mem_leads.1 hlead
  exact mem_leads.2 ⟨h hmem, hlead⟩

/-- A document refers to another one of a library. -/
def Refers (tree : File.Tree) (library : Library) (document other : Document) : Prop :=
  other ∈ library.documents ∧
    ∃ lead ∈ document.leads, lead.location.identity tree = other.location.identity tree

/-- A document reaches another one by references. -/
def Reaches (tree : File.Tree) (library : Library) : Document → Document → Prop :=
  Relation.ReflTransGen (library.Refers tree)

/-- What every reference leads to was tried. -/
def Closed (tree : File.Tree) (library : Library) : Prop :=
  ∀ lead ∈ library.leads, lead.location.identity tree ∈ library.visited

/-! ## What following a reference leaves as it was -/

variable {outcome : Except LoadError LoadOutcome}

theorem visited_subset_follow
    (h : library.follow tree document reference = (library', outcome)) :
    library.visited ⊆ library'.visited := by
  unfold follow at h
  split at h
  · rename_i location _
    have hsubset : library.visited ⊆ (library.load tree location).1.visited := visited_subset_load
    rwa [h] at hsubset
  · obtain ⟨rfl, -⟩ := Prod.mk.inj h
    exact List.Subset.refl _

/-- Where a reference leads is tried when it is followed. -/
theorem identity_mem_follow
    (h : library.follow tree document reference = (library', outcome))
    (hjoin : document.location.join reference.location = .ok location) :
    location.identity tree ∈ library'.visited := by
  have htried : location.identity tree ∈ (library.load tree location).1.visited :=
    identity_mem_load
  simp only [follow, hjoin] at h
  rwa [h] at htried

theorem doctypes_follow (h : library.follow tree document reference = (library', outcome)) :
    library'.doctypes = library.doctypes := by
  unfold follow at h
  split at h
  · exact doctypes_of_load h
  · obtain ⟨rfl, -⟩ := Prod.mk.inj h
    rfl

end Library

namespace Traversal

variable {tree : File.Tree} {t t' : Traversal} {library library' : Library}
variable {document root found : Document} {reference : DocumentReference}
variable {pending : List DocumentReference} {outer : List Frame}

/-- What was tried stays tried. -/
theorem visited_subset_move (hmove : Move tree t t') : t.library.visited ⊆ t'.library.visited := by
  cases hmove with
  | leave => exact List.Subset.refl _
  | enter _ hfollow => exact Library.visited_subset_follow hfollow
  | pass _ hfollow => exact Library.visited_subset_follow hfollow
  | fail _ hfollow => exact Library.visited_subset_follow hfollow

theorem visited_subset_run : t.library.visited ⊆ (run tree t).library.visited :=
  run_induction (P := fun t' => t.library.visited ⊆ t'.library.visited)
    (fun hmove h => List.Subset.trans h (visited_subset_move hmove)) (List.Subset.refl _)

/-- Documents with a document type are accepted as before. -/
theorem doctypes_move (hmove : Move tree t t') : t'.library.doctypes = t.library.doctypes := by
  cases hmove with
  | leave => rfl
  | enter _ hfollow => exact Library.doctypes_follow hfollow
  | pass _ hfollow => exact Library.doctypes_follow hfollow
  | fail _ hfollow => exact Library.doctypes_follow hfollow

theorem doctypes_run : (run tree t).library.doctypes = t.library.doctypes :=
  run_induction (P := fun t' => t'.library.doctypes = t.library.doctypes)
    (fun hmove h => (doctypes_move hmove).trans h) rfl

/-- A reference is to be followed: its document stands on the stack, and it is one of those
that are pending there. -/
def Awaits (stack : List Frame) (lead : Lead) : Prop :=
  ∃ frame ∈ stack, frame.document = lead.document ∧ lead.reference ∈ frame.pending

/-- How far the references were followed that the documents on the stack have, and all
others. -/
structure Followed (tree : File.Tree) (t : Traversal) : Prop where
  entered : ∀ frame ∈ t.stack, frame.document ∈ t.library.documents ∧
    frame.pending ⊆ DocumentReference.ofRoot frame.document.root
  /-- A reference is to be followed, or the file that it leads to was tried. -/
  followed : ∀ lead ∈ t.library.leads,
    Awaits t.stack lead ∨ lead.location.identity tree ∈ t.library.visited

/-- The next reference of a document is one of its references. -/
theorem Followed.mem_leads_next (h : Followed tree t)
    (hstack : t.stack = ⟨document, reference :: pending⟩ :: outer) {location : Location}
    (hjoin : document.location.join reference.location = .ok location) :
    (⟨document, reference, location⟩ : Lead) ∈ t.library.leads := by
  obtain ⟨hmem, hpending⟩ := h.entered ⟨document, reference :: pending⟩
    (by rw [hstack]; exact List.mem_cons_self)
  exact Library.mem_leads.2
    ⟨hmem, Document.mem_leads.2 ⟨rfl, hpending List.mem_cons_self, hjoin⟩⟩

/-- A document without a further reference keeps none waiting. -/
theorem Followed.leave (h : Followed tree t) (hstack : t.stack = ⟨document, []⟩ :: outer)
    (order : List Nat) : Followed tree { t with order, stack := outer } where
  entered frame hframe := h.entered frame (by rw [hstack]; exact List.mem_cons_of_mem _ hframe)
  followed lead hlead := by
    rcases h.followed lead hlead with ⟨frame, hframe, hdocument, hpending⟩ | htried
    · rw [hstack] at hframe
      rcases List.mem_cons.1 hframe with rfl | houter
      · exact absurd hpending List.not_mem_nil
      · exact Or.inl ⟨frame, houter, hdocument, hpending⟩
    · exact Or.inr htried

/-- When the next reference was followed, every other one is still to be followed, or was,
too. -/
theorem Followed.advance (h : Followed tree t)
    (hstack : t.stack = ⟨document, reference :: pending⟩ :: outer)
    (hdocuments : library.documents = t.library.documents)
    (hvisited : t.library.visited ⊆ library.visited)
    (hnext : ∀ location, document.location.join reference.location = .ok location →
      location.identity tree ∈ library.visited) (findings : List Finding) :
    Followed tree { t with library, stack := ⟨document, pending⟩ :: outer, findings } where
  entered frame hframe := by
    rw [hdocuments]
    rcases List.mem_cons.1 hframe with rfl | houter
    · obtain ⟨hmem, hpending⟩ := h.entered ⟨document, reference :: pending⟩
        (by rw [hstack]; exact List.mem_cons_self)
      exact ⟨hmem, fun r hr => hpending (List.mem_cons_of_mem _ hr)⟩
    · exact h.entered frame (by rw [hstack]; exact List.mem_cons_of_mem _ houter)
  followed lead hlead := by
    have hlead' : lead ∈ t.library.leads :=
      Library.leads_subset (hdocuments ▸ List.Subset.refl _) hlead
    rcases h.followed lead hlead' with ⟨frame, hframe, hdocument, hpending⟩ | htried
    · rw [hstack] at hframe
      rcases List.mem_cons.1 hframe with rfl | houter
      · rcases List.mem_cons.1 hpending with heq | hpending
        · -- This is the reference that was followed.
          obtain ⟨-, -, hjoin⟩ := Document.mem_leads.1 (Library.mem_leads.1 hlead').2
          rw [heq, ← hdocument] at hjoin
          exact Or.inr (hnext _ hjoin)
        · exact Or.inl ⟨_, List.mem_cons_self, hdocument, hpending⟩
      · exact Or.inl ⟨frame, List.mem_cons_of_mem _ houter, hdocument, hpending⟩
    · exact Or.inr (hvisited htried)

/-- The references of a document that comes in are all to be followed. -/
theorem Followed.enter (h : Followed tree t)
    (hdocuments : library.documents = t.library.documents ++ [found])
    (hvisited : t.library.visited ⊆ library.visited) (inherited : List (Nat × String)) :
    Followed tree { t with library, inherited, stack := Frame.enter found :: t.stack } where
  entered frame hframe := by
    rw [hdocuments]
    rcases List.mem_cons.1 hframe with rfl | hframe
    · exact ⟨List.mem_append_right _ (List.mem_singleton_self found), List.Subset.refl _⟩
    · obtain ⟨hmem, hpending⟩ := h.entered frame hframe
      exact ⟨List.mem_append_left _ hmem, hpending⟩
  followed lead hlead := by
    obtain ⟨hmem, hfrom⟩ := Library.mem_leads.1 hlead
    rw [hdocuments] at hmem
    rcases List.mem_append.1 hmem with hold | hnew
    · rcases h.followed lead (Library.mem_leads.2 ⟨hold, hfrom⟩) with
        ⟨frame, hframe, hawaits⟩ | htried
      · exact Or.inl ⟨frame, List.mem_cons_of_mem _ hframe, hawaits⟩
      · exact Or.inr (hvisited htried)
    · have heq : lead.document = found := List.mem_singleton.1 hnew
      refine Or.inl ⟨Frame.enter found, List.mem_cons_self, heq.symm, ?_⟩
      rw [← heq]
      exact (Document.mem_leads.1 hfrom).2.1

/-- **Every move follows what is next** and leaves nothing out. -/
theorem Followed.move (hmove : Move tree t t') (h : Followed tree t) : Followed tree t' := by
  cases hmove with
  | leave hstack => exact h.leave hstack _
  | pass hstack hfollow =>
    exact h.advance hstack (Library.documents_follow_of_alreadyLoaded hfollow)
      (Library.visited_subset_follow hfollow)
      (fun _ hjoin => Library.identity_mem_follow hfollow hjoin) t.findings
  | fail hstack hfollow =>
    exact h.advance hstack (Library.documents_follow_of_error hfollow)
      (Library.visited_subset_follow hfollow)
      (fun _ hjoin => Library.identity_mem_follow hfollow hjoin) _
  | @enter document found reference pending outer library hstack hfollow =>
    have hvisited : t.library.visited ⊆ library.visited := Library.visited_subset_follow hfollow
    have htried : ∀ location, document.location.join reference.location = .ok location →
        location.identity tree ∈ library.visited :=
      fun _ hjoin => Library.identity_mem_follow hfollow hjoin
    -- First the reference is followed, and then the document that it leads to comes in.
    let tried : Library := { t.library with visited := library.visited }
    have hdocuments : tried.documents = t.library.documents := rfl
    have hnext := h.advance hstack hdocuments hvisited htried t.findings
    exact hnext.enter (Library.follow_eq_loaded_append hfollow).2 (List.Subset.refl _) _

theorem Followed.run (h : Followed tree t) : Followed tree (Traversal.run tree t) :=
  run_induction Followed.move h

/-- A document that comes into a closed library has all of its references to be followed. -/
theorem Followed.ofRoot {location : Location} (h : library.Closed tree)
    (hload : library.load tree location = (library', .ok (.loaded root)))
    (inherited : List (Nat × String)) :
    Followed tree (Traversal.ofRoot library' inherited root) := by
  have hrest : Followed tree { library } :=
    ⟨fun _ hframe => absurd hframe List.not_mem_nil, fun lead hlead => Or.inr (h lead hlead)⟩
  obtain ⟨-, -, hvisited, hdocuments⟩ := Library.load_eq_loaded hload
  exact hrest.enter hdocuments (hvisited ▸ List.subset_cons_self _ _) inherited

/-- **At the end every reference was followed**: the library is closed. -/
theorem Followed.closed (h : Followed tree t) (hend : t.stack = []) : t.library.Closed tree := by
  intro lead hlead
  rcases h.followed lead hlead with ⟨frame, hframe, -⟩ | htried
  · rw [hend] at hframe
    exact absurd hframe List.not_mem_nil
  · exact htried

end Traversal

end WsdlTypes
