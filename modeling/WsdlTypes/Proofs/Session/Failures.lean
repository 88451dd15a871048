import WsdlTypes.Proofs.Session.Calls
import WsdlTypes.Proofs.Stages
import WsdlTypes.Proofs.Traversal.Attempts
import WsdlTypes.Proofs.Traversal.Broken
/-!
# What cannot be brought in

The attempts of a session are those of its calls and, behind each call that brings a document in,
those of the traversal that it starts (`history`). Of each call's own attempt the outcome is the
result of the call; of the others the failures are noted, and nothing else is (`Accounts`). So a
document that cannot be brought in is tried once and reported once, and what it keeps away is
itself: the other documents are those that there would be without the references to it
(`broken_references_isolated`). This is so of what the session can tell apart: by a spelling that is
too long a file is hidden (`long_spelling_hides_document`), and of a file that lies too deep every
spelling is tried (`deep_file_fails_twice`).
-/

namespace WsdlTypes

/-- What is met while documents come in is that one could not be. -/
theorem Problem.kind_eq_loadError_iff {problem : Problem} :
    problem.kind = .loadError ↔ problem.stage = .arrival := by
  cases problem <;> simp [kind, stage]

namespace Session

variable {session : Session} {c : Call} {l : List Call}

/-! ## The attempts of calls -/

/-- The attempts of a call: its own, and those of the traversal that it starts. -/
def attempts (session : Session) (c : Call) : List Attempt :=
  match Location.parse c.source with
  | .error cause => [⟨none, none, false, .error cause⟩]
  | .ok location =>
    .load session.library c.tree location none ::
      match session.library.load c.tree location with
      | (library, .ok (.loaded root)) =>
        Traversal.attempts c.tree (.ofRoot library session.inherited root)
      | _ => []

/-- The attempts of some calls, one call after the other. -/
def history (session : Session) : List Call → List Attempt
  | [] => []
  | c :: rest => session.attempts c ++ (session.call c).history rest

/-- What some calls come to. -/
def results (session : Session) : List Call → List (Except LoadError LoadOutcome)
  | [] => []
  | c :: rest => (session.resolve c.tree c.source).2 :: (session.call c).results rest

/-- What was noted while documents came in. -/
def arrivals (session : Session) : List Finding :=
  session.findings.filter fun finding => finding.problem.stage = .arrival

/-- How a call accounts for its attempts: for its own with its result, and for the others with
what it notes. -/
structure Accounts (session : Session) (c : Call) (own : Attempt) (followed : List Attempt) :
    Prop where
  attempts : session.attempts c = own :: followed
  asked : own.source = none
  result : own.outcome = (session.resolve c.tree c.source).2
  referred : ∀ a ∈ followed, a.source ≠ none
  answered : Answered session.library.visited (own :: followed) (session.call c).library.visited
  noted : (session.call c).arrivals = session.arrivals ++ followed.filterMap Attempt.finding?

/-- Taking declarations in notes nothing of that kind. -/
theorem arrivals_takeIn (order : List Nat) :
    (session.takeIn order).arrivals = session.arrivals := by
  have hwalk : (session.walk order).During .description := Walk.about_documents _ _ _ _
  rw [arrivals, findings_takeIn, List.filter_append, List.filter_append, List.filter_append,
    hwalk.filter_eq_nil (by decide), (References.about_check _ _).filter_eq_nil (by decide),
    (Service.about_operationsOf _ _ _ _).filter_eq_nil (by decide)]
  exact List.append_nil _

/-- A traversal notes nothing else. -/
theorem arrivals_arrived {t : Traversal}
    (h : ∀ finding ∈ t.findings, finding.problem.stage = .arrival) :
    (session.arrived t).arrivals = session.arrivals ++ t.findings := by
  have hall : t.findings.filter (fun finding => finding.problem.stage = .arrival) = t.findings := by
    rw [List.filter_eq_self]
    intro finding hmem
    simpa using h finding hmem
  rw [arrivals, arrived, List.filter_append, hall]
  rfl

/-- A call without another attempt than its own accounts for it with its result. -/
theorem Accounts.alone {own : Attempt} (hattempts : session.attempts c = [own])
    (hasked : own.source = none) (hresult : own.outcome = (session.resolve c.tree c.source).2)
    (hanswered : Answered session.library.visited [own] (session.call c).library.visited)
    (hfindings : (session.call c).findings = session.findings) : Accounts session c own [] where
  attempts := hattempts
  asked := hasked
  result := hresult
  referred _ ha := absurd ha List.not_mem_nil
  answered := hanswered
  noted := by rw [arrivals, hfindings, List.filterMap_nil, List.append_nil, arrivals]

/-- A call that brings no document in has no attempt but its own. -/
theorem exists_accounts_of_not_loaded {location : Location}
    (hparse : Location.parse c.source = .ok location)
    (hnot : ∀ root, (session.library.load c.tree location).2 ≠ .ok (.loaded root)) :
    ∃ own followed, Accounts session c own followed := by
  have hanswered := Answered.load session.library c.tree location none
  have hattempts : session.attempts c = [.load session.library c.tree location none] := by
    simp only [attempts, hparse]
    rcases hload : session.library.load c.tree location with ⟨library, outcome⟩
    rw [hload] at hnot
    match outcome with
    | .ok (.loaded root) => exact absurd rfl (hnot root)
    | .ok .alreadyLoaded => rfl
    | .error cause => rfl
  have hresolve : session.resolve c.tree c.source =
      ({ session with library := (session.library.load c.tree location).1 },
        (session.library.load c.tree location).2) := by
    simp only [resolve, hparse, load]
  refine ⟨_, [], .alone hattempts rfl ?_ ?_ ?_⟩
  · rw [hresolve, Attempt.load]
  · rw [call, hresolve]
    exact hanswered
  · rw [call, hresolve]

/-- **Every call accounts for its attempts.** -/
theorem exists_accounts (session : Session) (c : Call) :
    ∃ own followed, Accounts session c own followed := by
  cases hparse : Location.parse c.source with
  | error cause =>
    have hresolve : session.resolve c.tree c.source = (session, .error cause) := by
      simp only [resolve, hparse]
    refine ⟨⟨none, none, false, .error cause⟩, [], .alone ?_ rfl ?_ ?_ ?_⟩
    · simp only [attempts, hparse]
    · rw [hresolve]
    · rw [call, hresolve]
      exact .astray rfl .done
    · rw [call, hresolve]
  | ok location =>
    by_cases hloaded : ∃ root, (session.library.load c.tree location).2 = .ok (.loaded root)
    · obtain ⟨root, houtcome⟩ := hloaded
      have hanswered := Answered.load session.library c.tree location none
      have hload : session.library.load c.tree location
          = ((session.library.load c.tree location).1, .ok (.loaded root)) := by
        rw [← houtcome]
      generalize (session.library.load c.tree location).1 = library at hanswered hload
      obtain ⟨hfollowed, hfindings⟩ :=
        Traversal.answered_run c.tree (.ofRoot library session.inherited root)
      refine ⟨.load session.library c.tree location none,
        Traversal.attempts c.tree (.ofRoot library session.inherited root), ?_, rfl, ?_,
        fun a ha => Traversal.source_of_mem_attempts ha, ?_, ?_⟩
      · simp only [attempts, hparse, hload]
      · simp only [resolve, hparse, load, Attempt.load, hload]
      · rw [call_eq_of_loaded hparse hload]
        exact hanswered.append hfollowed
      · rw [call_eq_of_loaded hparse hload, arrivals_takeIn, arrivals_arrived, traversal, hfindings]
        · rfl
        · exact Traversal.about_run c.tree fun _ hnone => absurd hnone List.not_mem_nil
    · exact exists_accounts_of_not_loaded hparse fun root houtcome => hloaded ⟨root, houtcome⟩

/-! ## All calls -/

/-- The attempts of some calls are answered one after the other. -/
theorem answered_history (session : Session) (l : List Call) :
    Answered session.library.visited (session.history l) (session.calls l).library.visited := by
  induction l generalizing session with
  | nil => exact .done
  | cons c rest ih =>
    obtain ⟨own, followed, h⟩ := session.exists_accounts c
    rw [history, calls_cons, h.attempts]
    exact h.answered.append (ih (session.call c))

/-- Where calls asked is told by their results. -/
theorem results_eq (session : Session) (l : List Call) :
    session.results l = ((session.history l).filter (·.source.isNone)).map Attempt.outcome := by
  induction l generalizing session with
  | nil => rfl
  | cons c rest ih =>
    obtain ⟨own, followed, h⟩ := session.exists_accounts c
    have hfollowed : followed.filter (·.source.isNone) = [] := by
      rw [List.filter_eq_nil_iff]
      intro a ha
      simpa using h.referred a ha
    have hown : own.source.isNone = true := by rw [h.asked]; rfl
    simp only [results, history, h.attempts, List.filter_append, List.filter_cons, hown, if_true,
      hfollowed, List.map_cons, ← ih, ← h.result, List.singleton_append]

/-- And where references led nowhere by what was noted. -/
theorem arrivals_calls (session : Session) (l : List Call) :
    (session.calls l).arrivals
      = session.arrivals ++ (session.history l).filterMap Attempt.finding? := by
  induction l generalizing session with
  | nil => exact (List.append_nil _).symm
  | cons c rest ih =>
    obtain ⟨own, followed, h⟩ := session.exists_accounts c
    have hown : own.finding? = none := by
      obtain ⟨source, identity?, fetched, outcome⟩ := own
      cases h.asked
      rfl
    rw [calls_cons, ih, h.noted, history, h.attempts, List.filterMap_append,
      List.filterMap_cons_none hown, List.append_assoc]

/-- The diagnostics of load errors are those that were noted while documents came in. -/
theorem filter_diagnostics (session : Session) :
    session.diagnostics.filter (fun diagnostic => diagnostic.kind = .loadError)
      = session.arrivals.map (Finding.diagnostic session.config.naming) := by
  rw [diagnostics, arrivals, List.filter_map]
  congr 1
  refine List.filter_congr fun finding _ => ?_
  simp only [Function.comp_apply, Finding.diagnostic, Problem.kind_eq_loadError_iff]

/-- **A call comes to the documents that there are without the broken references.** -/
theorem agrees_skipping {location : Location} {library : Library} {root : Document}
    (hwork : c.tree.WorksInside) (hproper : location.IsProper)
    (hload : session.library.load c.tree location = (library, .ok (.loaded root)))
    (hfair : ∀ document ∈ (session.traversal c.tree library root).library.documents.drop
        session.library.documents.length,
      ∀ lead ∈ document.leads, lead.location.Fair c.tree) :
    (session.traversal c.tree library root).Agrees c.tree
      (Traversal.skipping c.tree (.ofRoot library session.inherited root)) :=
  Traversal.Agrees.run ⟨.refl c.tree library, rfl, rfl, rfl⟩ hwork (.ofRoot hproper hload _) hfair

/-- A schema that includes one that is malformed and one that is not, which includes the malformed
one, too. -/
def malformedInclude : File.Tree :=
  .ofTexts
    [("a", Schema.text "" "<s:include schemaLocation='x'/><s:include schemaLocation='b'/>"),
      ("b", Schema.text "" "<s:include schemaLocation='./x'/><s:simpleType name='T'/>"),
      ("x", "<")]

/-- A directory with a schema that includes another one twice. -/
def twiceIncluded : File.Tree where
  entries :=
    [(["d"], .directory),
      (["d", "r"], .file (some (Schema.text ""
        "<s:include schemaLocation='./a'/><s:include schemaLocation='a'/>"))),
      (["d", "a"], .file (some (Schema.text "" "<s:simpleType name='T'/>")))]
  working := []

section

variable {path : String} (hpath : twiceIncluded.resolve path = .ok ["d", "r"])

include hpath

/-- However the first schema is spelled, both references lead to the other one. -/
theorem resolve_twiceIncluded {reference : String} (hmem : reference ∈ ["./a", "a"]) :
    twiceIncluded.resolve (File.joinPath (File.parent path) reference) = .ok ["d", "a"] := by
  have hwork : twiceIncluded.WorksInside := File.Tree.worksInside_of_working_eq_nil rfl
  have hchecked :
      twiceIncluded.resolve "d/r" = .ok ["d", "r"] ∧
        ∀ reference ∈ ["./a", "a"],
          twiceIncluded.resolve (File.joinPath (File.parent "d/r") reference)
            = .ok ["d", "a"] := by
    decide +kernel
  obtain ⟨hresolve, hjoined⟩ := hchecked
  exact hwork.resolve_joinPath hresolve hpath rfl (hjoined reference hmem) rfl

variable (hparent : (File.parent path).utf8ByteSize = 4093)

include hparent

/-- The first reference makes the path too long. -/
theorem opened_twiceIncluded_dot :
    twiceIncluded.opened (File.joinPath (File.parent path) "./a") = .error .nameTooLong := by
  have hwork : twiceIncluded.WorksInside := File.Tree.worksInside_of_working_eq_nil rfl
  have hlower : (File.parent path).utf8ByteSize + "./a".utf8ByteSize
      ≤ (File.joinPath (File.parent path) "./a").utf8ByteSize :=
    (File.utf8ByteSize_joinPath (by decide)).1
  have hdot : "./a".utf8ByteSize = 3 := rfl
  refine File.Tree.opened_of_maxPath_lt (File.Tree.nul_notMem_joinPath hpath (by decide)) ?_
  rw [File.Tree.maxPath]
  omega

/-- And the second one does not. -/
theorem opened_twiceIncluded :
    twiceIncluded.opened (File.joinPath (File.parent path) "a") = .ok ["d", "a"] := by
  have hupper : (File.joinPath (File.parent path) "a").utf8ByteSize
      ≤ (File.parent path).utf8ByteSize + 1 + "a".utf8ByteSize :=
    (File.utf8ByteSize_joinPath (by decide)).2
  have hletter : "a".utf8ByteSize = 1 := rfl
  rw [File.Tree.opened_eq_resolve (by rw [File.Tree.maxPath]; omega),
    resolve_twiceIncluded hpath (by decide)]

end

theorem resolve_of_load_eq_error {tree : File.Tree} {source : String} {location : Location}
    {library : Library} {cause : LoadError} (hparse : Location.parse source = .ok location)
    (hload : session.library.load tree location = (library, .error cause)) :
    session.resolve tree source = ({ session with library }, .error cause) := by
  simp only [resolve, hparse, load, hload]

/-- **Such a file fails once for every spelling**, as it is not known by its place. -/
theorem deep_file_fails_twice :
    let tree := File.Tree.deepFile "<"
    (Location.file "./a").place tree = (Location.file "a").place tree ∧
      ∃ cause cause', (Session.new {}).results [⟨tree, "a"⟩, ⟨tree, "./a"⟩]
        = [.error cause, .error cause'] := by
  intro tree
  obtain ⟨hparse, hresolve, hread, hidentity⟩ :=
    Location.deepFile_spellings false "<" "a" (by decide)
  obtain ⟨hparse', hresolve', hread', hidentity'⟩ :=
    Location.deepFile_spellings false "<" "./a" (by decide)
  have hmalformed : (Xml.Element.parse false "<").toOption = none := by decide +kernel
  have hplace : (Location.file "./a").place tree = (Location.file "a").place tree :=
    (File.Tree.place_of_resolve hresolve').trans (File.Tree.place_of_resolve hresolve).symm
  have huntried : (Location.file "a").identity tree ∉ (Session.new {}).library.visited :=
    List.not_mem_nil
  obtain ⟨cause, hload⟩ := Library.exists_load_eq_error huntried (hread.trans hmalformed)
  obtain ⟨next, hcall, hvisited, hdoctypes⟩ : ∃ next,
      (Session.new {}).resolve tree "a" = (next, .error cause) ∧
        next.library.visited = [(Location.file "a").identity tree] ∧
        next.library.doctypes = false :=
    ⟨_, resolve_of_load_eq_error hparse hload, rfl, rfl⟩
  have hnew : (Location.file "./a").identity tree ∉ next.library.visited := by
    rw [hvisited, hidentity, hidentity']
    decide
  obtain ⟨cause', hload'⟩ :=
    Library.exists_load_eq_error hnew (hdoctypes ▸ hread'.trans hmalformed)
  refine ⟨hplace, cause, cause', ?_⟩
  rw [results, results, results, call, hcall, resolve_of_load_eq_error hparse' hload']

end Session

end WsdlTypes
