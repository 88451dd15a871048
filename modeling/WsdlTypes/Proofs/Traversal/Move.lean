import Mathlib.Logic.Function.Iterate
import WsdlTypes.Proofs.Library
import WsdlTypes.Traversal
/-!
# The moves of a traversal

What one step of a traversal can do, said once: a document whose references were all
followed is left (`Move.leave`); a reference leads to a document that comes in
(`Move.enter`), to one that was tried before (`Move.pass`), or to none (`Move.fail`). What
every move keeps holds at the end of a traversal (`run_induction`), and the end is reached
after as many moves as the documents have references, and one more for each of them
(`exists_iterate_eq_run`).
-/

namespace WsdlTypes

/-! ## What comes of following a reference -/

namespace Library

variable {library library' : Library} {tree : File.Tree} {location : Location}
variable {document found : Document} {reference : DocumentReference} {cause : LoadError}

/-- A reference that is followed to a document names a location, and the document there was
asked for. -/
theorem follow_eq_ok {outcome : LoadOutcome}
    (h : library.follow tree document reference = (library', .ok outcome)) :
    ∃ location, document.location.join reference.location = .ok location ∧
      library.load tree location = (library', .ok outcome) := by
  unfold follow at h
  split at h
  · rename_i location hjoin
    exact ⟨location, hjoin, h⟩
  · simp at h

/-- A reference that leads nowhere names no location, or none that a document could be
brought in from. -/
theorem follow_eq_error (h : library.follow tree document reference = (library', .error cause)) :
    (document.location.join reference.location = .error cause ∧ library' = library) ∨
      ∃ location, document.location.join reference.location = .ok location ∧
        library.load tree location = (library', .error cause) := by
  unfold follow at h
  split at h
  · rename_i location hjoin
    exact Or.inr ⟨location, hjoin, h⟩
  · rename_i e hjoin
    simp only [Prod.mk.injEq, Except.error.injEq] at h
    obtain ⟨rfl, rfl⟩ := h
    exact Or.inl ⟨hjoin, rfl⟩

theorem follow_eq_loaded_append
    (h : library.follow tree document reference = (library', .ok (.loaded found))) :
    found.id = library.documents.length ∧
      library'.documents = library.documents ++ [found] := by
  obtain ⟨location, -, hload⟩ := follow_eq_ok h
  exact load_eq_loaded_append hload

theorem documents_follow_of_alreadyLoaded
    (h : library.follow tree document reference = (library', .ok .alreadyLoaded)) :
    library'.documents = library.documents := by
  obtain ⟨location, -, hload⟩ := follow_eq_ok h
  exact documents_load_of_alreadyLoaded hload

theorem documents_follow_of_error
    (h : library.follow tree document reference = (library', .error cause)) :
    library'.documents = library.documents := by
  rcases follow_eq_error h with ⟨-, rfl⟩ | ⟨location, -, hload⟩
  · rfl
  · exact documents_load_of_error hload

end Library

namespace Traversal

/-! ## One move -/

/-- A step of a traversal, by what becomes of the reference that is next. -/
inductive Move (tree : File.Tree) : Traversal → Traversal → Prop where
  /-- A document without a further reference is left. -/
  | leave {t : Traversal} {document : Document} {outer : List Frame}
      (hstack : t.stack = ⟨document, []⟩ :: outer) :
      Move tree t { t with order := t.order ++ [document.id], stack := outer }
  /-- A reference leads to a document that comes in. -/
  | enter {t : Traversal} {document found : Document} {reference : DocumentReference}
      {pending : List DocumentReference} {outer : List Frame} {library : Library}
      (hstack : t.stack = ⟨document, reference :: pending⟩ :: outer)
      (hfollow : t.library.follow tree document reference = (library, .ok (.loaded found))) :
      Move tree t
        ({ t with library, stack := ⟨document, pending⟩ :: outer }.enter found reference)
  /-- A reference leads to what was tried before. -/
  | pass {t : Traversal} {document : Document} {reference : DocumentReference}
      {pending : List DocumentReference} {outer : List Frame} {library : Library}
      (hstack : t.stack = ⟨document, reference :: pending⟩ :: outer)
      (hfollow : t.library.follow tree document reference = (library, .ok .alreadyLoaded)) :
      Move tree t { t with library, stack := ⟨document, pending⟩ :: outer }
  /-- A reference leads to no document, which is noted. -/
  | fail {t : Traversal} {document : Document} {reference : DocumentReference}
      {pending : List DocumentReference} {outer : List Frame} {library : Library}
      {cause : LoadError}
      (hstack : t.stack = ⟨document, reference :: pending⟩ :: outer)
      (hfollow : t.library.follow tree document reference = (library, .error cause)) :
      Move tree t
        { t with
          library
          stack := ⟨document, pending⟩ :: outer
          findings := t.findings ++
            [{ problem := .unloaded cause
               file := document.location.display
               line := reference.line }] }

/-- A step is a move. -/
theorem move_step {tree : File.Tree} {t : Traversal} {frame : Frame} {outer : List Frame}
    (h : t.stack = frame :: outer) : Move tree t (t.step tree frame outer) := by
  obtain ⟨document, pending⟩ := frame
  cases pending with
  | nil => exact Move.leave h
  | cons reference pending =>
    simp only [step, follow]
    rcases hfollow : t.library.follow tree document reference with ⟨library, outcome⟩
    match outcome with
    | .ok (.loaded found) => exact Move.enter h hfollow
    | .ok .alreadyLoaded => exact Move.pass h hfollow
    | .error cause => exact Move.fail h hfollow

/-! ## A whole run -/

theorem run_of_stack_nil {tree : File.Tree} {t : Traversal} (h : t.stack = []) :
    run tree t = t := by
  rw [run]
  split
  · rfl
  · rename_i h'
    rw [h] at h'
    cases h'

theorem run_of_stack_cons {tree : File.Tree} {t : Traversal} {frame : Frame}
    {outer : List Frame} (h : t.stack = frame :: outer) :
    run tree t = run tree (t.step tree frame outer) := by
  rw [run]
  split
  · rename_i h'
    rw [h] at h'
    cases h'
  · rename_i frame' outer' h'
    rw [h] at h'
    cases h'
    rfl

/-- **What every move keeps holds at the end.** -/
theorem run_induction {tree : File.Tree} {P : Traversal → Prop}
    (hmove : ∀ {t t' : Traversal}, Move tree t t' → P t → P t') {t : Traversal} (h : P t) :
    P (run tree t) := by
  -- By induction on how many moves are left.
  induction hn : t.measure tree using Nat.strongRecOn generalizing t with
  | _ n ih =>
    cases hstack : t.stack with
    | nil => rwa [run_of_stack_nil hstack]
    | cons frame outer =>
      rw [run_of_stack_cons hstack]
      have hlt : (t.step tree frame outer).measure tree < n := hn ▸ measure_step_lt hstack
      exact ih _ hlt (hmove (move_step hstack) h) rfl

/-! ## How many steps there are -/

/-- How many steps some documents take: one for each reference, and one to leave each. -/
def steps (documents : List Document) : Nat :=
  total (documents.map fun document => (Frame.enter document).size)

theorem steps_append (front back : List Document) :
    steps (front ++ back) = steps front + steps back := by
  induction front with
  | nil => simp [steps]
  | cons first rest ih =>
    simp only [steps, List.cons_append, List.map_cons, total_cons] at ih ⊢
    omega

/-- **A move takes one step**, and puts off those of the document that comes in, if one does. -/
theorem steps_move {tree : File.Tree} {t t' : Traversal} (hmove : Move tree t t') :
    total (t'.stack.map Frame.size) + 1 + steps t.library.documents
      = total (t.stack.map Frame.size) + steps t'.library.documents := by
  cases hmove with
  | leave hstack =>
    simp only [hstack, List.map_cons, total_cons, Frame.size, List.length_nil]
    omega
  | @enter document found reference pending outer library hstack hfollow =>
    have hdocuments := (Library.follow_eq_loaded_append hfollow).2
    have hfound : steps [found] = (Frame.enter found).size := rfl
    simp only [enter, hstack, hdocuments, steps_append, hfound, List.map_cons, total_cons,
      Frame.size, List.length_cons]
    omega
  | pass hstack hfollow =>
    rw [Library.documents_follow_of_alreadyLoaded hfollow]
    simp only [hstack, List.map_cons, total_cons, Frame.size, List.length_cons]
    omega
  | fail hstack hfollow =>
    rw [Library.documents_follow_of_error hfollow]
    simp only [hstack, List.map_cons, total_cons, Frame.size, List.length_cons]
    omega

/-- The traversal after its next step, if there is one. -/
def advance (tree : File.Tree) (t : Traversal) : Traversal :=
  match t.stack with
  | [] => t
  | frame :: outer => t.step tree frame outer

/-- **A traversal ends**, after no more steps than its measure: none of its documents is
entered and not left then, and it is the traversal taken to its end. It took the steps that were
pending on its stack, and those of the documents that came in. -/
theorem exists_iterate_eq_run (tree : File.Tree) (t : Traversal) :
    ∃ n ≤ t.measure tree,
      ((advance tree)^[n] t).stack = [] ∧ (advance tree)^[n] t = run tree t ∧
        n + steps t.library.documents
          = total (t.stack.map Frame.size) + steps (run tree t).library.documents := by
  induction hm : t.measure tree using Nat.strongRecOn generalizing t with
  | _ m ih =>
    cases hstack : t.stack with
    | nil =>
      refine ⟨0, Nat.zero_le _, hstack, (run_of_stack_nil hstack).symm, ?_⟩
      rw [run_of_stack_nil hstack, List.map_nil, total_nil]
    | cons frame outer =>
      have hlt : (t.step tree frame outer).measure tree < m := hm ▸ measure_step_lt hstack
      have hadvance : advance tree t = t.step tree frame outer := by simp [advance, hstack]
      obtain ⟨n, hn, hend, hrun, hsteps⟩ := ih _ hlt (t.step tree frame outer) rfl
      have hmove : Move tree t (t.step tree frame outer) := move_step hstack
      have hbalance := steps_move hmove
      rw [← run_of_stack_cons hstack] at hrun hsteps
      refine ⟨n + 1, by omega, ?_, ?_, ?_⟩
      · rwa [Function.iterate_succ_apply, hadvance]
      · rw [Function.iterate_succ_apply, hadvance, hrun]
      · rw [← hstack]
        omega

/-- At the end every document that was entered is left. -/
theorem stack_run (tree : File.Tree) (t : Traversal) : (run tree t).stack = [] := by
  obtain ⟨n, -, hend, hrun, -⟩ := exists_iterate_eq_run tree t
  rwa [hrun] at hend

end Traversal

end WsdlTypes
