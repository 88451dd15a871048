import WsdlTypes.Proofs.Traversal.Move
/-!
# The order in which documents are left

A document is entered when it comes in and is left once, so the documents that were left and
those still on the stack are together the ones that came in, each once (`Arrivals`). At the
end nothing is on the stack: the order lists every document that the traversal brought in,
once, and nothing else, the document that the traversal started from at the end
(`order_run`).
-/

namespace WsdlTypes

namespace Traversal

variable {tree : File.Tree} {old : List Document} {root : Document} {t t' : Traversal}

/-- The numbers of the documents that were left, in order, and behind them of those that are
to be left, the next one first. -/
def agenda (t : Traversal) : List Nat :=
  t.order ++ t.stack.map fun frame => frame.document.id

/-- What a traversal that started from a document in a library of older ones has brought in:
the agenda lists it, each document once, and ends with the first one. -/
structure Arrivals (old : List Document) (root : Document) (t : Traversal) : Prop where
  numbered : t.library.Numbered
  listed : ∃ fresh, t.library.documents = old ++ fresh ∧ t.agenda.Perm (fresh.map Document.id)
  rootLast : t.agenda.getLast? = some root.id

/-- A traversal starts with the one document that just came in. -/
theorem Arrivals.ofRoot {library library' : Library} {location : Location}
    (hnumbered : library.Numbered)
    (h : library.load tree location = (library', .ok (.loaded root)))
    (inherited : List (Nat × String)) :
    Arrivals library.documents root (ofRoot library' inherited root) := by
  obtain ⟨hid, hdocuments⟩ := Library.load_eq_loaded_append h
  exact {
    numbered := hnumbered.append hid hdocuments
    listed := ⟨[root], hdocuments, List.Perm.refl _⟩
    rootLast := rfl }

/-- A document that is not the last one to be left can come in before the rest. -/
theorem getLast?_append_cons_of_ne_nil {l rest : List Nat} {id : Nat} (hne : rest ≠ []) :
    (l ++ id :: rest).getLast? = (l ++ rest).getLast? := by
  cases rest with
  | nil => exact absurd rfl hne
  | cons next rest => rw [List.getLast?_append, List.getLast?_append, List.getLast?_cons_cons]

/-- **Every move keeps the agenda complete.** Leaving a document leaves the agenda as it is,
and so does a reference that brings nothing in. -/
theorem Arrivals.move (hmove : Move tree t t') (h : Arrivals old root t) :
    Arrivals old root t' := by
  obtain ⟨hnumbered, ⟨fresh, hdocuments, hperm⟩, hlast⟩ := h
  cases hmove with
  | @leave document outer hstack =>
    have hagenda :
        t.agenda = agenda { t with order := t.order ++ [document.id], stack := outer } := by
      simp only [agenda, hstack, List.map_cons, List.append_assoc, List.singleton_append]
    rw [hagenda] at hperm hlast
    exact ⟨hnumbered, ⟨fresh, hdocuments, hperm⟩, hlast⟩
  | @enter document found reference pending outer library hstack hfollow =>
    obtain ⟨hid, hgrown⟩ := Library.follow_eq_loaded_append hfollow
    simp only [agenda, hstack, List.map_cons] at hperm hlast
    refine ⟨hnumbered.append hid hgrown, ⟨fresh ++ [found], ?_, ?_⟩, ?_⟩
    · simp only [Traversal.enter, hgrown, hdocuments, List.append_assoc]
    · simp only [agenda, Traversal.enter, Frame.enter, List.map_cons, List.map_append,
        List.map_nil]
      refine List.perm_middle.trans ?_
      exact (hperm.cons found.id).trans (List.perm_append_singleton _ _).symm
    · simp only [agenda, Traversal.enter, Frame.enter, List.map_cons]
      rw [getLast?_append_cons_of_ne_nil (by simp)]
      exact hlast
  | pass hstack hfollow =>
    have hsame := Library.documents_follow_of_alreadyLoaded hfollow
    simp only [agenda, hstack, List.map_cons] at hperm hlast
    exact ⟨hnumbered.of_documents_eq hsame, ⟨fresh, hsame.trans hdocuments, hperm⟩, hlast⟩
  | fail hstack hfollow =>
    have hsame := Library.documents_follow_of_error hfollow
    simp only [agenda, hstack, List.map_cons] at hperm hlast
    exact ⟨hnumbered.of_documents_eq hsame, ⟨fresh, hsame.trans hdocuments, hperm⟩, hlast⟩

theorem Arrivals.run (h : Arrivals old root t) : Arrivals old root (run tree t) :=
  run_induction Arrivals.move h

/-- **The order at the end** lists the documents that came in, each once and nothing else,
and the first one last. -/
theorem order_run (h : Arrivals old root t) :
    (Traversal.run tree t).library.Numbered ∧
      (∃ fresh, (Traversal.run tree t).library.documents = old ++ fresh ∧
        (Traversal.run tree t).order.Perm (fresh.map Document.id)) ∧
      (Traversal.run tree t).order.getLast? = some root.id := by
  have hend : (Traversal.run tree t).agenda = (Traversal.run tree t).order := by
    simp [agenda, stack_run]
  have hrun : Arrivals old root (Traversal.run tree t) := h.run
  obtain ⟨hnumbered, hlisted, hlast⟩ := hrun
  rw [hend] at hlisted hlast
  exact ⟨hnumbered, hlisted, hlast⟩

end Traversal

end WsdlTypes
