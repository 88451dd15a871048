import WsdlTypes.Proofs.Location
import WsdlTypes.Proofs.Traversal.Lead
/-!
# References that lead nowhere

A reference is broken if it names no location, or one that no document can be read at. Following
it changes nothing but what was noted and what counts as tried, and by what is tried in vain no
document is known that can be read (`Library.Agrees.tried_in_vain`). So a traversal comes to the
same documents as the one that leaves out what is broken (`skipping`, `Agrees.run`).
-/

namespace WsdlTypes

/-- Whether a document can be read where a reference of a document leads. -/
def Document.finds (tree : File.Tree) (doctypes : Bool) (document : Document)
    (reference : DocumentReference) : Bool :=
  match document.location.join reference.location with
  | .ok location => (location.root? doctypes tree).isSome
  | .error _ => false

/-! ## Libraries that agree -/

namespace Library

variable {tree : File.Tree} {library library' : Library} {location : Location}

/-- The libraries hold the same documents, and of what can be read the same was tried. -/
structure Agrees (tree : File.Tree) (library library' : Library) : Prop where
  doctypes : library'.doctypes = library.doctypes
  documents : library'.documents = library.documents
  tried : ∀ (location : Location) (root : Xml.Element), location.IsProper →
    location.root? library.doctypes tree = some root →
      (location.identity tree ∈ library'.visited ↔ location.identity tree ∈ library.visited)

theorem Agrees.refl (tree : File.Tree) (library : Library) : Agrees tree library library :=
  ⟨rfl, rfl, fun _ _ _ _ => Iff.rfl⟩

/-- **What can be read comes in to both or to none.** -/
theorem Agrees.load (h : Agrees tree library library') {root : Xml.Element}
    (hproper : location.IsProper) (hroot : location.root? library.doctypes tree = some root) :
    (library'.load tree location).2 = (library.load tree location).2 ∧
      Agrees tree (library.load tree location).1 (library'.load tree location).1 := by
  have hopen : library'.open? tree location = library.open? tree location := by
    rw [open?, open?, h.doctypes, h.documents]
  have htried := h.tried location root hproper hroot
  by_cases hold : location.identity tree ∈ library.visited
  · rw [Library.load, Library.load, if_pos hold, if_pos (htried.2 hold)]
    exact ⟨rfl, h⟩
  · rw [Library.load, Library.load, if_neg hold, if_neg fun hnew => hold (htried.1 hnew), hopen]
    have hnext : ∀ (other : Location) (root' : Xml.Element), other.IsProper →
        other.root? library.doctypes tree = some root' →
        (other.identity tree ∈ location.identity tree :: library'.visited ↔
          other.identity tree ∈ location.identity tree :: library.visited) := by
      intro other root' hown hother
      rw [List.mem_cons, List.mem_cons, h.tried other root' hown hother]
    cases library.open? tree location with
    | ok document => exact ⟨rfl, h.doctypes, by rw [h.documents], hnext⟩
    | error cause => exact ⟨rfl, h.doctypes, h.documents, hnext⟩

/-- **What is tried in vain does not count for what can be read.** -/
theorem Agrees.tried_in_vain (h : Agrees tree library library') (hwork : tree.WorksInside)
    (hroot : location.root? library.doctypes tree = none) (hproper : location.IsProper)
    (hfair : location.Fair tree) : Agrees tree (library.load tree location).1 library' := by
  by_cases hold : location.identity tree ∈ library.visited
  · rw [Library.load, if_pos hold]
    exact h
  · obtain ⟨cause, hload⟩ := exists_load_eq_error hold hroot
    rw [hload]
    refine ⟨h.doctypes, h.documents, fun other root' hown hother => ?_⟩
    have hne : other.identity tree ≠ location.identity tree := by
      intro heq
      have hread := Location.root?_of_identity_eq hwork hother hown heq.symm hproper hfair
      rw [hroot] at hread
      cases hread
    rw [h.tried other root' hown hother, List.mem_cons, or_iff_right hne]

end Library

/-! ## The traversal that leaves out what is broken -/

namespace Traversal

variable {tree : File.Tree} {t t' s : Traversal} {frame : Frame} {outer : List Frame}

/-- The next step of a traversal that leaves out broken references. -/
def stepSkipping (t : Traversal) (tree : File.Tree) (frame : Frame) (outer : List Frame) :
    Traversal :=
  match frame.pending with
  | [] => t.step tree frame outer
  | reference :: pending =>
    if frame.document.finds tree t.library.doctypes reference then t.step tree frame outer
    else { t with stack := { frame with pending } :: outer }

theorem measure_stepSkipping_lt (h : t.stack = frame :: outer) :
    (t.stepSkipping tree frame outer).measure tree < t.measure tree := by
  unfold stepSkipping
  split
  · exact measure_step_lt h
  · rename_i reference pending hpending
    split
    · exact measure_step_lt h
    · simp only [measure, h, List.map_cons, total_cons, Frame.size, hpending, List.length_cons]
      omega

/-- The traversal taken to its end, where broken references are left out. -/
def skipping (tree : File.Tree) (t : Traversal) : Traversal :=
  match _h : t.stack with
  | [] => t
  | frame :: outer => skipping tree (t.stepSkipping tree frame outer)
termination_by t.measure tree
decreasing_by exact measure_stepSkipping_lt _h

theorem skipping_of_stack_nil (h : t.stack = []) : skipping tree t = t := by
  rw [skipping]
  split
  · rfl
  · rename_i h'
    rw [h] at h'
    cases h'

theorem skipping_of_stack_cons (h : t.stack = frame :: outer) :
    skipping tree t = skipping tree (t.stepSkipping tree frame outer) := by
  rw [skipping]
  split
  · rename_i h'
    rw [h] at h'
    cases h'
  · rename_i frame' outer' h'
    rw [h] at h'
    cases h'
    rfl

/-! ## What a traversal has entered -/

/-- Documents that came in stay in front. -/
theorem documents_prefix_move (hmove : Move tree t t') :
    t.library.documents <+: t'.library.documents := by
  cases hmove with
  | leave => exact List.prefix_refl _
  | @enter _ _ _ _ _ library _ hfollow =>
    show t.library.documents <+: library.documents
    rw [(Library.follow_eq_loaded_append hfollow).2]
    exact List.prefix_append _ _
  | pass _ hfollow =>
    exact (Library.documents_follow_of_alreadyLoaded hfollow).symm ▸ List.prefix_refl _
  | fail _ hfollow => exact (Library.documents_follow_of_error hfollow).symm ▸ List.prefix_refl _

theorem documents_prefix_run : t.library.documents <+: (run tree t).library.documents :=
  run_induction (P := fun t' => t.library.documents <+: t'.library.documents)
    (fun hmove h => h.trans (documents_prefix_move hmove)) (List.prefix_refl _)

/-- Something is read where the document stands, which is a proper location. -/
def IsRead (tree : File.Tree) (document : Document) : Prop :=
  document.location.IsProper ∧
    ∃ doctypes root, document.location.root? doctypes tree = some root

/-- The documents on the stack were read behind older ones, and what is pending there are
references of theirs. -/
def Entered (tree : File.Tree) (old : List Document) (t : Traversal) : Prop :=
  ∃ fresh, t.library.documents = old ++ fresh ∧ ∀ frame ∈ t.stack,
    frame.document ∈ fresh ∧ frame.pending ⊆ DocumentReference.ofRoot frame.document.root ∧
      IsRead tree frame.document

variable {old : List Document} {library library' : Library} {location : Location}
variable {document found root : Document} {reference : DocumentReference}
variable {pending : List DocumentReference}

/-- A document that comes in is read where it was asked for. -/
theorem isRead_of_loaded (hproper : location.IsProper)
    (hload : library.load tree location = (library', .ok (.loaded found))) :
    IsRead tree found := by
  obtain ⟨-, hopen, -, -⟩ := Library.load_eq_loaded hload
  have hlocation : found.location = location := (Library.open?_eq_ok_iff.1 hopen).2.2.2
  rw [IsRead, hlocation]
  exact ⟨hproper, library.doctypes, found.root, Library.root?_of_open?_eq_ok hopen⟩

/-- A document that comes in has its own references. -/
theorem Entered.enter (h : Entered tree old t)
    (hdocuments : library.documents = t.library.documents ++ [found])
    (hread : IsRead tree found) (inherited : List (Nat × String)) :
    Entered tree old { t with library, inherited, stack := Frame.enter found :: t.stack } := by
  obtain ⟨fresh, hfresh, hframes⟩ := h
  refine ⟨fresh ++ [found], by rw [hdocuments, hfresh, List.append_assoc], fun frame hframe => ?_⟩
  rcases List.mem_cons.1 hframe with rfl | hframe
  · exact ⟨List.mem_append_right _ (List.mem_singleton_self found), List.Subset.refl _, hread⟩
  · obtain ⟨hmem, hrest⟩ := hframes frame hframe
    exact ⟨List.mem_append_left _ hmem, hrest⟩

/-- Of a document with one reference less the others are left. -/
theorem Entered.advance (h : Entered tree old t)
    (hstack : t.stack = ⟨document, reference :: pending⟩ :: outer)
    (hdocuments : library.documents = t.library.documents) (findings : List Finding) :
    Entered tree old { t with library, stack := ⟨document, pending⟩ :: outer, findings } := by
  obtain ⟨fresh, hfresh, hframes⟩ := h
  refine ⟨fresh, hdocuments.trans hfresh, fun frame hframe => ?_⟩
  rw [hstack] at hframes
  rcases List.mem_cons.1 hframe with rfl | houter
  · obtain ⟨hmem, hpending, hread⟩ := hframes _ List.mem_cons_self
    exact ⟨hmem, fun r hr => hpending (List.mem_cons_of_mem _ hr), hread⟩
  · exact hframes frame (List.mem_cons_of_mem _ houter)

theorem Entered.move (hmove : Move tree t t') (h : Entered tree old t) : Entered tree old t' := by
  cases hmove with
  | leave hstack =>
    obtain ⟨fresh, hfresh, hframes⟩ := h
    refine ⟨fresh, hfresh, fun frame hframe => hframes frame ?_⟩
    rw [hstack]
    exact List.mem_cons_of_mem _ hframe
  | pass hstack hfollow =>
    exact h.advance hstack (Library.documents_follow_of_alreadyLoaded hfollow) t.findings
  | fail hstack hfollow =>
    exact h.advance hstack (Library.documents_follow_of_error hfollow) _
  | @enter document found reference pending outer library hstack hfollow =>
    obtain ⟨location, hjoin, hload⟩ := Library.follow_eq_ok hfollow
    obtain ⟨fresh, -, hframes⟩ := id h
    obtain ⟨-, -, hproper, _, _, hroot⟩ := hframes _ (hstack ▸ List.mem_cons_self)
    have hfound : IsRead tree found :=
      isRead_of_loaded (Location.isProper_of_join hroot hproper hjoin) hload
    have hnext := h.advance hstack (rfl : t.library.documents = t.library.documents) t.findings
    exact hnext.enter (Library.load_eq_loaded_append hload).2 hfound _

/-- A traversal starts with a document that just came in. -/
theorem Entered.ofRoot (hproper : location.IsProper)
    (hload : library.load tree location = (library', .ok (.loaded root)))
    (inherited : List (Nat × String)) :
    Entered tree library.documents (ofRoot library' inherited root) := by
  have hrest : Entered tree library.documents { library } :=
    ⟨[], (List.append_nil _).symm, fun _ hframe => absurd hframe List.not_mem_nil⟩
  exact hrest.enter (Library.load_eq_loaded_append hload).2 (isRead_of_loaded hproper hload)
    inherited

/-! ## Both traversals together -/

/-- The traversals are at the same place, with libraries that agree. -/
structure Agrees (tree : File.Tree) (t s : Traversal) : Prop where
  library : t.library.Agrees tree s.library
  inherited : s.inherited = t.inherited
  order : s.order = t.order
  stack : s.stack = t.stack

/-- **A step is one of the traversal that leaves out what is broken**: what is left out is tried
in vain. -/
theorem Agrees.step (h : Agrees tree t s) (hwork : tree.WorksInside)
    (hstack : t.stack = frame :: outer) (hread : IsRead tree frame.document)
    (hfair : ∀ reference ∈ frame.pending, ∀ location,
      frame.document.location.join reference.location = .ok location → location.Fair tree) :
    Agrees tree (t.step tree frame outer) (s.stepSkipping tree frame outer) := by
  obtain ⟨document, pending⟩ := frame
  cases pending with
  | nil => exact ⟨h.library, h.inherited, congrArg (· ++ [document.id]) h.order, rfl⟩
  | cons reference pending =>
    simp only [Traversal.step, follow, stepSkipping, Library.follow]
    cases hjoin : document.location.join reference.location with
    | error cause =>
      have hfinds : document.finds tree s.library.doctypes reference = false := by
        simp only [Document.finds, hjoin]
      simp only [hfinds, Bool.false_eq_true, if_false, take]
      exact ⟨h.library, h.inherited, h.order, rfl⟩
    | ok location =>
      have hproper : location.IsProper := by
        obtain ⟨hown, _, _, hroot⟩ := hread
        exact Location.isProper_of_join hroot hown hjoin
      cases hroot : location.root? t.library.doctypes tree with
      | none =>
        have hfinds : document.finds tree s.library.doctypes reference = false := by
          simp only [Document.finds, hjoin, h.library.doctypes, hroot, Option.isSome_none]
        have hvain := h.library.tried_in_vain hwork hroot hproper
          (hfair reference List.mem_cons_self location hjoin)
        simp only [hfinds, Bool.false_eq_true, if_false]
        rcases hload : t.library.load tree location with ⟨library, outcome⟩
        rw [hload] at hvain
        cases outcome with
        | error cause => exact ⟨hvain, h.inherited, h.order, rfl⟩
        | ok loaded =>
          cases loaded with
          | loaded found =>
            obtain ⟨-, hopen, -, -⟩ := Library.load_eq_loaded hload
            rw [Library.root?_of_open?_eq_ok hopen] at hroot
            cases hroot
          | alreadyLoaded => exact ⟨hvain, h.inherited, h.order, rfl⟩
      | some root =>
        have hfinds : document.finds tree s.library.doctypes reference = true := by
          simp only [Document.finds, hjoin, h.library.doctypes, hroot, Option.isSome_some]
        obtain ⟨hsame, hagrees⟩ := h.library.load hproper hroot
        simp only [hfinds, if_true]
        rcases hload : t.library.load tree location with ⟨library, outcome⟩
        rcases hload' : s.library.load tree location with ⟨library', outcome'⟩
        rw [hload, hload'] at hsame hagrees
        obtain rfl : outcome' = outcome := hsame
        cases outcome' with
        | error cause => exact ⟨hagrees, h.inherited, h.order, rfl⟩
        | ok loaded =>
          cases loaded with
          | loaded found =>
            refine ⟨hagrees, ?_, h.order, rfl⟩
            simp only [take, enter, h.inherited]
          | alreadyLoaded => exact ⟨hagrees, h.inherited, h.order, rfl⟩

/-- **A traversal comes to what it comes to without the broken references**, if no reference of a
document that comes in leads to a location that passes for a file that it does not open. -/
theorem Agrees.run (h : Agrees tree t s) (hwork : tree.WorksInside) (hentered : Entered tree old t)
    (hfair : ∀ document ∈ (run tree t).library.documents.drop old.length,
      ∀ lead ∈ document.leads, lead.location.Fair tree) :
    Agrees tree (run tree t) (skipping tree s) := by
  -- By induction on how many moves are left.
  induction hn : t.measure tree using Nat.strongRecOn generalizing t s with
  | _ n ih =>
    cases hstack : t.stack with
    | nil =>
      rw [run_of_stack_nil hstack, skipping_of_stack_nil (h.stack.trans hstack)]
      exact h
    | cons frame outer =>
      rw [run_of_stack_cons hstack, skipping_of_stack_cons (h.stack.trans hstack)]
      have hmove : Move tree t (t.step tree frame outer) := move_step hstack
      have hlt : (t.step tree frame outer).measure tree < n := hn ▸ measure_step_lt hstack
      have hdocument : frame.document ∈ (run tree t).library.documents.drop old.length ∧
          frame.pending ⊆ DocumentReference.ofRoot frame.document.root ∧
          IsRead tree frame.document := by
        obtain ⟨fresh, hfresh, hframes⟩ := hentered
        obtain ⟨later, hlater⟩ : t.library.documents <+: (run tree t).library.documents :=
          documents_prefix_run
        obtain ⟨hmem, hrest⟩ := hframes frame (by rw [hstack]; exact List.mem_cons_self)
        refine ⟨?_, hrest⟩
        rw [← hlater, hfresh, List.append_assoc, List.drop_left]
        exact List.mem_append_left _ hmem
      obtain ⟨hmem, hpending, hread⟩ := hdocument
      refine ih _ hlt (h.step hwork hstack hread fun reference hreference location hjoin => ?_)
        (hentered.move hmove) ?_ rfl
      · exact hfair _ hmem ⟨frame.document, reference, location⟩
          (Document.mem_leads.2 ⟨rfl, hpending hreference, hjoin⟩)
      · rw [← run_of_stack_cons hstack]
        exact hfair

/-! ## What is tried in vain under another spelling

A path that is too long to be opened may lead to a file that can be read. If a reference spells it
that way it is tried in vain, and counts as tried. -/

variable {lost kept : Location} {first second : DocumentReference}

/-- The next reference is followed to the location that it names. -/
theorem step_of_join (hjoin : document.location.join reference.location = .ok location) :
    t.step tree ⟨document, reference :: pending⟩ outer
      = { t with stack := ⟨document, pending⟩ :: outer }.take document reference
          (t.library.load tree location) := by
  simp only [step, follow, Library.follow, hjoin]

/-- A document without a further reference is left. -/
theorem documents_run_of_left (hstack : t.stack = [⟨document, []⟩]) :
    (run tree t).library.documents = t.library.documents := by
  rw [run_of_stack_cons hstack, run_of_stack_nil rfl]
  rfl

/-- Documents that came in stay in front there, too. -/
theorem documents_prefix_skipping :
    t.library.documents <+: (skipping tree t).library.documents := by
  -- By induction on how many moves are left.
  induction hn : t.measure tree using Nat.strongRecOn generalizing t with
  | _ n ih =>
    cases hstack : t.stack with
    | nil =>
      exact (skipping_of_stack_nil hstack).symm ▸ List.prefix_refl _
    | cons frame outer =>
      rw [skipping_of_stack_cons hstack]
      have hlt : (t.stepSkipping tree frame outer).measure tree < n :=
        hn ▸ measure_stepSkipping_lt hstack
      refine List.IsPrefix.trans ?_ (ih _ hlt rfl)
      have hstep : t.library.documents <+: (t.step tree frame outer).library.documents :=
        documents_prefix_move (move_step hstack)
      unfold stepSkipping
      split
      · exact hstep
      · split
        · exact hstep
        · exact List.prefix_refl _

/-- **A document is lost to a reference that leads to it in vain**, in front of one that leads
there. -/
theorem documents_of_lost_first (inherited : List (Nat × String))
    (hreferences : DocumentReference.ofRoot root.root = [first, second])
    (hfirst : root.location.join first.location = .ok lost)
    (hsecond : root.location.join second.location = .ok kept)
    (hsame : kept.identity tree = lost.identity tree)
    (hnew : lost.identity tree ∉ library.visited)
    (hlost : lost.root? library.doctypes tree = none)
    (hkept : kept.root? library.doctypes tree ≠ none) :
    (run tree (ofRoot library inherited root)).library.documents = library.documents ∧
      library.documents.length
        < (skipping tree (ofRoot library inherited root)).library.documents.length := by
  have hstack : (ofRoot library inherited root).stack = [⟨root, [first, second]⟩] := by
    rw [ofRoot, Frame.enter, hreferences]
  constructor
  · obtain ⟨cause, hload⟩ := Library.exists_load_eq_error hnew hlost
    have hagain : Library.load
          { library with visited := lost.identity tree :: library.visited } tree kept
        = ({ library with visited := lost.identity tree :: library.visited },
            .ok .alreadyLoaded) := by
      rw [Library.load, if_pos]
      rw [hsame]
      exact List.mem_cons_self
    have hfollow : (ofRoot library inherited root).library.load tree lost
        = ({ library with visited := lost.identity tree :: library.visited }, .error cause) := hload
    rw [run_of_stack_cons hstack, step_of_join hfirst, hfollow]
    simp only [take]
    rw [run_of_stack_cons rfl, step_of_join hsecond]
    simp only [hagain, take]
    rw [documents_run_of_left rfl]
  · obtain ⟨other, hother⟩ := Option.ne_none_iff_exists'.1 hkept
    have hunread : kept.identity tree ∉ library.visited := hsame ▸ hnew
    obtain ⟨library', found, hload, -, -⟩ := Library.exists_load_eq_loaded hunread hother
    have hskipped : root.finds tree library.doctypes first = false := by
      simp only [Document.finds, hfirst, hlost, Option.isSome_none]
    have hfound : root.finds tree library.doctypes second = true := by
      simp only [Document.finds, hsecond, hother, Option.isSome_some]
    have hgrown := (Library.load_eq_loaded_append hload).2
    rw [skipping_of_stack_cons hstack]
    simp only [stepSkipping, ofRoot, hskipped, Bool.false_eq_true, if_false]
    rw [skipping_of_stack_cons rfl]
    simp only [stepSkipping, hfound, if_true]
    rw [step_of_join hsecond]
    simp only [hload, take]
    refine Nat.lt_of_lt_of_le ?_ documents_prefix_skipping.length_le
    simp only [enter, hgrown, List.length_append, List.length_singleton]
    omega

end Traversal

end WsdlTypes
