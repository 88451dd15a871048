import WsdlTypes.Proofs.Traversal.Heir
import WsdlTypes.Proofs.Traversal.Lead
/-!
# Why documents come in

A document comes in for one reason: it was asked for, and then it takes no namespace over; or
a reference of a document that was there before leads to it, and it takes over what this hands
on (`Reached`). So every document has a reason that lies before it, and every file that was
tried and is no document could not be read (`Traced`). This holds of a traversal at its end if
it holds at its start (`Traced.run`), whatever was asked for and followed earlier.
-/

namespace WsdlTypes

/-- A location was asked for, or a reference of some documents leads there; and what is handed
on to the document at the location. -/
inductive Reached (asked : List Location) (documents : List Document) :
    Location → Option String → Prop where
  | asked {location : Location} (h : location ∈ asked) : Reached asked documents location none
  | lead {lead : Lead} (hdocument : lead.document ∈ documents)
      (hlead : lead ∈ lead.document.leads) :
      Reached asked documents lead.location lead.reference.includedInto

/-- More documents reach more. -/
theorem Reached.mono {asked : List Location} {documents documents' : List Document}
    {location : Location} {target : Option String} (hsubset : documents ⊆ documents')
    (h : Reached asked documents location target) : Reached asked documents' location target := by
  cases h with
  | asked h => exact Reached.asked h
  | lead hdocument hlead => exact Reached.lead (hsubset hdocument) hlead

/-- What is known of the documents that came in from one tree of files, and of the files that
were tried. -/
structure Traced (tree : File.Tree) (asked : List Location) (library : Library)
    (inherited : List (Nat × String)) : Prop where
  sourced : library.Sourced tree
  numbered : library.Numbered
  /-- A document was asked for, or one that came in before it refers to it. -/
  reached : ∀ d ∈ library.documents,
    Reached asked (library.documents.take d.id) d.location (inherited.lookup d.id)
  vacant : ∀ id, library.documents.length ≤ id → inherited.lookup id = none
  /-- A file that was tried came in, or could not be read. -/
  accounted : ∀ file ∈ library.visited,
    (∃ d ∈ library.documents, d.location.identity tree = file) ∨
      ∃ location target, Reached asked library.documents location target ∧
        location.identity tree = file ∧ location.root? library.doctypes tree = none

variable {tree : File.Tree} {asked : List Location} {library library' : Library}
variable {inherited inherited' : List (Nat × String)} {location : Location}
variable {target : Option String} {found : Document}

/-- Nothing is known of a library that is empty. -/
theorem Traced.empty (doctypes : Bool) : Traced tree asked { doctypes } [] where
  sourced := ⟨fun _ h => absurd h List.not_mem_nil, fun _ h => absurd h List.not_mem_nil,
    List.nodup_nil⟩
  numbered := rfl
  reached _ h := absurd h List.not_mem_nil
  vacant _ _ := rfl
  accounted _ h := absurd h List.not_mem_nil

/-- The documents that came in before a document are less in number. -/
theorem Library.Numbered.id_lt_of_mem_take {n : Nat} (h : library.Numbered) {d : Document}
    (hmem : d ∈ library.documents.take n) : d.id < n := by
  have hid : d.id ∈ (library.documents.map Document.id).take n := by
    rw [← List.map_take]
    exact List.mem_map_of_mem hmem
  rw [h, List.take_range, List.mem_range] at hid
  exact Nat.lt_of_lt_of_le hid (Nat.min_le_left ..)

/-- **A document that is reached may come in**: it is the last one, with what is handed on to
it. -/
theorem Traced.loaded (h : Traced tree asked library inherited)
    (hreached : Reached asked library.documents location target)
    (hload : library.load tree location = (library', .ok (.loaded found)))
    (hlookup : ∀ id, inherited'.lookup id = if id = found.id then target else inherited.lookup id) :
    Traced tree asked library' inherited' := by
  obtain ⟨-, hopen, hvisited, hdocuments⟩ := Library.load_eq_loaded hload
  obtain ⟨-, -, hid, hlocation⟩ := Library.open?_eq_ok_iff.1 hopen
  have hgrown : library.documents ⊆ library'.documents := by
    rw [hdocuments]
    exact List.subset_append_left _ _
  have hdoctypes := Library.doctypes_of_load hload
  constructor
  case sourced => exact h.sourced.loaded hload
  case numbered => exact h.numbered.append hid hdocuments
  case reached =>
    intro d hd
    rw [hdocuments] at hd ⊢
    rw [hlookup]
    rcases List.mem_append.1 hd with hold | hnew
    · have hlt := h.numbered.id_lt hold
      rw [if_neg (by omega), List.take_append_of_le_length (Nat.le_of_lt hlt)]
      exact h.reached d hold
    · rw [List.mem_singleton.1 hnew, if_pos rfl, hid, List.take_left, hlocation]
      exact hreached
  case vacant =>
    intro id hle
    rw [hdocuments, List.length_append, List.length_singleton] at hle
    rw [hlookup, if_neg (by omega)]
    exact h.vacant id (by omega)
  case accounted =>
    intro file hfile
    rw [hvisited] at hfile
    rcases List.mem_cons.1 hfile with rfl | hold
    · refine Or.inl ⟨found, ?_, by rw [hlocation]⟩
      rw [hdocuments]
      exact List.mem_append_right _ (List.mem_singleton_self found)
    · rcases h.accounted file hold with ⟨d, hd, heq⟩ | ⟨other, handed, hother, heq, hnone⟩
      · exact Or.inl ⟨d, hgrown hd, heq⟩
      · rw [← hdoctypes] at hnone
        exact Or.inr ⟨other, handed, hother.mono hgrown, heq, hnone⟩

/-- A location that is reached may be tried in vain. -/
theorem Traced.tried (h : Traced tree asked library inherited)
    (hreached : Reached asked library.documents location target) {cause : LoadError}
    (hload : library.load tree location = (library', .error cause)) :
    Traced tree asked library' inherited := by
  obtain ⟨-, hopen, rfl⟩ := Library.load_eq_error hload
  refine ⟨h.sourced.of_visited_subset (List.subset_cons_self _ _), h.numbered, h.reached,
    h.vacant, fun file hfile => ?_⟩
  rcases List.mem_cons.1 hfile with rfl | hold
  · exact Or.inr ⟨location, target, hreached, rfl, Library.root?_of_open?_eq_error hopen⟩
  · exact h.accounted file hold

namespace Traversal

variable {t t' : Traversal}

/-- **Every move brings in what it has a reason for.** -/
theorem traced_move (hmove : Move tree t t') (hfollowed : Followed tree t)
    (h : Traced tree asked t.library t.inherited) :
    Traced tree asked t'.library t'.inherited := by
  cases hmove with
  | leave => exact h
  | pass _ hfollow =>
    obtain ⟨_, -, hload⟩ := Library.follow_eq_ok hfollow
    obtain ⟨-, rfl⟩ := Library.load_eq_alreadyLoaded hload
    exact h
  | fail hstack hfollow =>
    rcases Library.follow_eq_error hfollow with ⟨-, rfl⟩ | ⟨location, hjoin, hload⟩
    · exact h
    · obtain ⟨hdocument, hlead⟩ := Library.mem_leads.1 (hfollowed.mem_leads_next hstack hjoin)
      exact h.tried (Reached.lead hdocument hlead) hload
  | @enter document found reference pending outer library hstack hfollow =>
    obtain ⟨location, hjoin, hload⟩ := Library.follow_eq_ok hfollow
    obtain ⟨hdocument, hlead⟩ := Library.mem_leads.1 (hfollowed.mem_leads_next hstack hjoin)
    have hid := (Library.load_eq_loaded_append hload).1
    exact h.loaded (Reached.lead hdocument hlead) hload
      (lookup_enter reference (t := { t with library, stack := ⟨document, pending⟩ :: outer })
        (h.vacant found.id (Nat.le_of_eq hid.symm)))

theorem traced_run (hfollowed : Followed tree t) (h : Traced tree asked t.library t.inherited) :
    Traced tree asked (run tree t).library (run tree t).inherited :=
  (run_induction (P := fun t => Followed tree t ∧ Traced tree asked t.library t.inherited)
    (fun hmove h => ⟨h.1.move hmove, traced_move hmove h.1 h.2⟩) ⟨hfollowed, h⟩).2

end Traversal

end WsdlTypes
