import WsdlTypes.Proofs.Traversal.Lead
/-!
# Attempts to bring documents in

What a traversal asks for, one reference after the other, and what comes of each
(`Traversal.attempts`). Of the attempts at what is known by one name the first one alone fetches
anything, and every later one is answered without a word (`Answered.filter_eq`); what was noted
are the failures among them (`Traversal.answered_run`).
-/

namespace WsdlTypes

/-- One attempt to bring a document in. -/
structure Attempt where
  /-- The reference that was followed, with its document; none where a call asked. -/
  source : Option (Document × DocumentReference)
  /-- What the location is known by; none where no location is named. -/
  identity? : Option String
  /-- Whether the location was fetched, as it was not known to be tried. -/
  fetched : Bool
  outcome : Except LoadError LoadOutcome

namespace Attempt

/-- What is noted of the attempt: that a reference leads nowhere. -/
def finding? : Attempt → Option Finding
  | ⟨some (document, reference), _, _, .error cause⟩ =>
    some { problem := .unloaded cause, file := document.location.display, line := reference.line }
  | _ => none

/-- The attempt to load a location. -/
def load (library : Library) (tree : File.Tree) (location : Location)
    (source : Option (Document × DocumentReference)) : Attempt where
  source
  identity? := some (location.identity tree)
  fetched := location.identity tree ∉ library.visited
  outcome := (library.load tree location).2

/-- The attempt to follow a reference. -/
def follow (library : Library) (tree : File.Tree) (document : Document)
    (reference : DocumentReference) : Attempt :=
  match document.location.join reference.location with
  | .ok location => load library tree location (some (document, reference))
  | .error cause => ⟨some (document, reference), none, false, .error cause⟩

end Attempt

/-! ## How attempts are answered -/

/-- Attempts that take what was tried from one state to another: what is not known to be tried
is fetched and is known from then on, and what is known is not fetched again. -/
inductive Answered : List String → List Attempt → List String → Prop where
  | done {visited : List String} : Answered visited [] visited
  /-- No location is named. -/
  | astray {visited visited' : List String} {a : Attempt} {rest : List Attempt}
      (hidentity : a.identity? = none) (hrest : Answered visited rest visited') :
      Answered visited (a :: rest) visited'
  /-- The location was tried before. -/
  | again {visited visited' : List String} {identity : String} {a : Attempt}
      {rest : List Attempt} (hidentity : a.identity? = some identity) (hold : identity ∈ visited)
      (hfetched : a.fetched = false) (houtcome : a.outcome = .ok .alreadyLoaded)
      (hrest : Answered visited rest visited') : Answered visited (a :: rest) visited'
  /-- The location is tried for the first time. -/
  | first {visited visited' : List String} {identity : String} {a : Attempt}
      {rest : List Attempt} (hidentity : a.identity? = some identity) (hnew : identity ∉ visited)
      (hfetched : a.fetched = true) (hrest : Answered (identity :: visited) rest visited') :
      Answered visited (a :: rest) visited'

namespace Answered

variable {visited visited' visited'' : List String} {l l' : List Attempt}
variable {identity : String} {a : Attempt}

theorem append (h : Answered visited l visited') (h' : Answered visited' l' visited'') :
    Answered visited (l ++ l') visited'' := by
  induction h with
  | done => exact h'
  | astray hidentity _ ih => exact .astray hidentity (ih h')
  | again hidentity hold hfetched houtcome _ ih =>
    exact .again hidentity hold hfetched houtcome (ih h')
  | first hidentity hnew hfetched _ ih => exact .first hidentity hnew hfetched (ih h')

/-- **What was tried is not fetched again**, and nothing comes of asking for it. -/
theorem silent (h : Answered visited l visited') (hold : identity ∈ visited) (ha : a ∈ l)
    (hidentity : a.identity? = some identity) :
    a.fetched = false ∧ a.outcome = .ok .alreadyLoaded := by
  induction h with
  | done => cases ha
  | astray hnone _ ih =>
    rcases List.mem_cons.1 ha with rfl | ha
    · rw [hidentity] at hnone
      cases hnone
    · exact ih hold ha
  | again _ _ hfetched houtcome _ ih =>
    rcases List.mem_cons.1 ha with rfl | ha
    · exact ⟨hfetched, houtcome⟩
    · exact ih hold ha
  | first hother hnew _ _ ih =>
    rcases List.mem_cons.1 ha with rfl | ha
    · rw [hidentity, Option.some.injEq] at hother
      exact absurd (hother ▸ hold) hnew
    · exact ih (List.mem_cons_of_mem _ hold) ha

/-- An attempt at a location that fails has fetched it. -/
theorem fetched_of_error (h : Answered visited l visited') (ha : a ∈ l)
    (hidentity : a.identity? = some identity) {cause : LoadError}
    (houtcome : a.outcome = .error cause) : a.fetched = true := by
  induction h with
  | done => cases ha
  | astray hnone _ ih =>
    rcases List.mem_cons.1 ha with rfl | ha
    · rw [hidentity] at hnone
      cases hnone
    · exact ih ha
  | again _ _ _ hagain _ ih =>
    rcases List.mem_cons.1 ha with rfl | ha
    · rw [houtcome] at hagain
      cases hagain
    · exact ih ha
  | first _ _ hfetched _ ih =>
    rcases List.mem_cons.1 ha with rfl | ha
    · exact hfetched
    · exact ih ha

/-- **An attempt that fetches is the first one** at what it asks for, and the later ones are
silent. -/
theorem filter_eq (h : Answered visited l visited') (ha : a ∈ l)
    (hidentity : a.identity? = some identity) (hfetched : a.fetched = true) :
    ∃ later, l.filter (fun b => b.identity? = some identity) = a :: later ∧
      ∀ b ∈ later, b.fetched = false ∧ b.outcome = .ok .alreadyLoaded := by
  induction h with
  | done => cases ha
  | @astray _ _ b rest hnone hrest ih =>
    rcases List.mem_cons.1 ha with rfl | ha
    · rw [hidentity] at hnone
      cases hnone
    · rw [List.filter_cons_of_neg (by simp [hnone])]
      exact ih ha
  | @again _ _ other b rest hother hold hnot houtcome hrest ih =>
    rcases List.mem_cons.1 ha with rfl | ha
    · rw [hfetched] at hnot
      cases hnot
    · have hne : other ≠ identity := by
        rintro rfl
        rw [(hrest.silent hold ha hidentity).1] at hfetched
        cases hfetched
      rw [List.filter_cons_of_neg (by simp [hother, hne])]
      exact ih ha
  | @first _ _ other b rest hother hnew hfirst hrest ih =>
    by_cases heq : other = identity
    · subst heq
      have hsilent : ∀ b' ∈ rest, b'.identity? = some other →
          b'.fetched = false ∧ b'.outcome = .ok .alreadyLoaded :=
        fun b' hb' => hrest.silent List.mem_cons_self hb'
      obtain rfl : a = b := by
        rcases List.mem_cons.1 ha with heq | ha
        · exact heq
        · rw [(hsilent a ha hidentity).1] at hfetched
          cases hfetched
      rw [List.filter_cons_of_pos (by simp [hother])]
      refine ⟨_, rfl, fun b' hb' => ?_⟩
      obtain ⟨hmem, hidentity'⟩ := List.mem_filter.1 hb'
      exact hsilent b' hmem (by simpa using hidentity')
    · rcases List.mem_cons.1 ha with rfl | ha
      · rw [hidentity, Option.some.injEq] at hother
        exact absurd hother.symm heq
      · rw [List.filter_cons_of_neg (by simp [hother, heq])]
        exact ih ha

/-- Loading a location is one attempt. -/
theorem load (library : Library) (tree : File.Tree) (location : Location)
    (source : Option (Document × DocumentReference)) :
    Answered library.visited [.load library tree location source]
      (library.load tree location).1.visited := by
  by_cases hold : location.identity tree ∈ library.visited
  · have hload : library.load tree location = (library, .ok .alreadyLoaded) := by
      rw [Library.load, if_pos hold]
    rw [hload]
    exact .again rfl hold (by simp [Attempt.load, hold]) (by simp [Attempt.load, hload]) .done
  · have hvisited : (library.load tree location).1.visited
        = location.identity tree :: library.visited := by
      rw [Library.load, if_neg hold]
      cases library.open? tree location <;> rfl
    rw [hvisited]
    exact .first rfl hold (by simp [Attempt.load, hold]) .done

/-- And so is following a reference. -/
theorem follow (library : Library) (tree : File.Tree) (document : Document)
    (reference : DocumentReference) :
    Answered library.visited [.follow library tree document reference]
      (library.follow tree document reference).1.visited := by
  cases hjoin : document.location.join reference.location with
  | error cause =>
    simp only [Attempt.follow, Library.follow, hjoin]
    exact .astray rfl .done
  | ok location =>
    simp only [Attempt.follow, Library.follow, hjoin]
    exact load library tree location _

end Answered

/-! ## The attempts of a traversal -/

namespace Traversal

variable {tree : File.Tree} {t : Traversal} {frame : Frame} {outer : List Frame}

/-- The attempt that the next step makes where a document stands on top of the stack. -/
def nextAttempt (t : Traversal) (tree : File.Tree) (frame : Frame) : List Attempt :=
  match frame.pending with
  | [] => []
  | reference :: _ => [.follow t.library tree frame.document reference]

/-- The attempts that a traversal makes until its end. -/
def attempts (tree : File.Tree) (t : Traversal) : List Attempt :=
  match _h : t.stack with
  | [] => []
  | frame :: outer => t.nextAttempt tree frame ++ attempts tree (t.step tree frame outer)
termination_by t.measure tree
decreasing_by exact measure_step_lt _h

theorem attempts_of_stack_nil (h : t.stack = []) : attempts tree t = [] := by
  rw [attempts]
  split
  · rfl
  · rename_i h'
    rw [h] at h'
    cases h'

theorem attempts_of_stack_cons (h : t.stack = frame :: outer) :
    attempts tree t = t.nextAttempt tree frame ++ attempts tree (t.step tree frame outer) := by
  rw [attempts]
  split
  · rename_i h'
    rw [h] at h'
    cases h'
  · rename_i frame' outer' h'
    rw [h] at h'
    cases h'
    rfl

@[simp] theorem library_take (document : Document) (reference : DocumentReference)
    (result : Library × Except LoadError LoadOutcome) :
    (t.take document reference result).library = result.1 := by
  obtain ⟨library, outcome⟩ := result
  match outcome with
  | .ok (.loaded found) => rfl
  | .ok .alreadyLoaded => rfl
  | .error cause => rfl

/-- A step answers its attempt. -/
theorem answered_step : Answered t.library.visited (t.nextAttempt tree frame)
    (t.step tree frame outer).library.visited := by
  obtain ⟨document, pending⟩ := frame
  cases pending with
  | nil => exact .done
  | cons reference pending =>
    simp only [nextAttempt, step, Traversal.follow, library_take]
    exact .follow t.library tree document reference

/-- And notes its failure. -/
theorem findings_step : (t.step tree frame outer).findings
    = t.findings ++ (t.nextAttempt tree frame).filterMap Attempt.finding? := by
  obtain ⟨document, pending⟩ := frame
  cases pending with
  | nil => exact (List.append_nil _).symm
  | cons reference pending =>
    simp only [nextAttempt, step, Traversal.follow, Library.follow, Attempt.follow]
    cases hjoin : document.location.join reference.location with
    | error cause => rfl
    | ok location =>
      rcases hload : t.library.load tree location with ⟨library, outcome⟩
      simp only [Attempt.load, hload]
      cases outcome with
      | error cause => rfl
      | ok loaded => cases loaded <;> exact (List.append_nil _).symm

/-- **A traversal answers its attempts, and notes their failures.** -/
theorem answered_run (tree : File.Tree) (t : Traversal) :
    Answered t.library.visited (attempts tree t)
      (Traversal.run tree t).library.visited ∧
    (Traversal.run tree t).findings
      = t.findings ++ (attempts tree t).filterMap Attempt.finding? := by
  -- By induction on how many moves are left.
  induction hn : t.measure tree using Nat.strongRecOn generalizing t with
  | _ n ih =>
    cases hstack : t.stack with
    | nil =>
      rw [run_of_stack_nil hstack, attempts_of_stack_nil hstack]
      exact ⟨.done, (List.append_nil _).symm⟩
    | cons frame outer =>
      rw [run_of_stack_cons hstack, attempts_of_stack_cons hstack]
      have hlt : (t.step tree frame outer).measure tree < n := hn ▸ measure_step_lt hstack
      obtain ⟨hanswered, hfindings⟩ := ih _ hlt _ rfl
      refine ⟨answered_step.append hanswered, ?_⟩
      rw [hfindings, findings_step, List.filterMap_append, List.append_assoc]

/-- References alone are followed: no call asks on the way. -/
theorem source_of_mem_attempts {a : Attempt} (ha : a ∈ attempts tree t) : a.source ≠ none := by
  induction hn : t.measure tree using Nat.strongRecOn generalizing t with
  | _ n ih =>
    cases hstack : t.stack with
    | nil =>
      rw [attempts_of_stack_nil hstack] at ha
      cases ha
    | cons frame outer =>
      rw [attempts_of_stack_cons hstack] at ha
      rcases List.mem_append.1 ha with ha | ha
      · unfold nextAttempt at ha
        split at ha
        · cases ha
        · rw [List.mem_singleton.1 ha, Attempt.follow]
          split <;> simp [Attempt.load]
      · exact ih _ (hn ▸ measure_step_lt hstack) ha rfl

end Traversal

end WsdlTypes
