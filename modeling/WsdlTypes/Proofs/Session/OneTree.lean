import WsdlTypes.Proofs.Location
import WsdlTypes.Proofs.Session.Calls
import WsdlTypes.Proofs.Traversal.Traced
/-!
# Sessions over one tree of files

While the files stay as they are, what a session has tried is known: what it was asked for, and
what the references of its documents lead to, those included that came to nothing
(`Explored`). So whatever was asked for before, and whatever a document refers to, is already
there when it is asked for again, after any other calls, and nothing changes (`resolve_known`). In
another spelling it is there, too, if both are known by the place that they lead to; a file that
lies too deep for this comes in again (`deep_file_is_not_known`).
-/

namespace WsdlTypes

namespace Session

variable {session : Session} {c : Call} {tree : File.Tree} {asked : List Location}
variable {source : String} {sources : List String} {location : Location}

/-- The session after it was asked for some locations, one after the other, while the files
stay as they are. -/
def resolveAll (session : Session) (tree : File.Tree) (sources : List String) : Session :=
  session.calls (sources.map (Call.mk tree))

/-- **What every call over one tree keeps holds after any of them.** -/
theorem resolveAll_induction {P : Session → Prop}
    (hcall : ∀ {s : Session}, ∀ source ∈ sources, P s → P (s.call ⟨tree, source⟩))
    (h : P session) : P (session.resolveAll tree sources) := by
  induction sources generalizing session with
  | nil => exact h
  | cons source rest ih =>
    exact ih (fun source hsource => hcall source (List.mem_cons_of_mem _ hsource))
      (hcall source List.mem_cons_self h)

/-! ## What counts as tried -/

/-- A call that brings no document in changes the library alone. -/
theorem call_eq_of_not_loaded (hparse : Location.parse c.source = .ok location)
    {library : Library} {outcome : Except LoadError LoadOutcome}
    (hload : session.library.load c.tree location = (library, outcome))
    (hquiet : ∀ root, outcome ≠ .ok (.loaded root)) :
    session.call c = { session with library } := by
  -- The one case that is left out is the one in which a document comes in.
  simp only [call, resolve, hparse, load, hload]

/-- A file that cannot be read counts as tried, and nothing else changes. -/
theorem call_eq_of_root?_eq_none (hparse : Location.parse source = .ok location)
    (hnew : location.identity tree ∉ session.library.visited)
    (hroot : location.root? session.library.doctypes tree = none) :
    session.call ⟨tree, source⟩ = { session with
      library := { session.library with
        visited := location.identity tree :: session.library.visited } } := by
  obtain ⟨cause, hload⟩ := Library.exists_load_eq_error hnew hroot
  exact call_eq_of_not_loaded (c := ⟨tree, source⟩) hparse hload (by simp)

theorem visited_load_subset_call (hparse : Location.parse c.source = .ok location) :
    (session.library.load c.tree location).1.visited ⊆ (session.call c).library.visited := by
  rcases hload : session.library.load c.tree location with ⟨library, outcome⟩
  rcases outcome with cause | ⟨root⟩ | _
  · rw [call_eq_of_not_loaded hparse hload (by simp)]
    exact List.Subset.refl _
  · rw [call_eq_of_loaded hparse hload, library_takeIn, library_arrived]
    have hsubset : (Traversal.ofRoot library session.inherited root).library.visited
        ⊆ (session.traversal c.tree library root).library.visited := Traversal.visited_subset_run
    exact hsubset
  · rw [call_eq_of_not_loaded hparse hload (by simp)]
    exact List.Subset.refl _

/-- What was tried stays tried. -/
theorem visited_subset_call : session.library.visited ⊆ (session.call c).library.visited := by
  cases hparse : Location.parse c.source with
  | error cause =>
    simp only [call, resolve, hparse]
    exact List.Subset.refl _
  | ok location =>
    exact List.Subset.trans Library.visited_subset_load (visited_load_subset_call hparse)

theorem visited_subset_resolveAll :
    session.library.visited ⊆ (session.resolveAll tree sources).library.visited :=
  resolveAll_induction (P := fun s => session.library.visited ⊆ s.library.visited)
    (fun _ _ h => List.Subset.trans h visited_subset_call) (List.Subset.refl _)

/-- Documents with a document type are accepted as before. -/
theorem doctypes_call : (session.call c).library.doctypes = session.library.doctypes := by
  have houtcome := call_outcome session c
  generalize session.call c = next at houtcome
  cases houtcome with
  | quiet => rfl
  | @absorbed location library root hparse hload =>
    have hrun : (session.traversal c.tree library root).library.doctypes = library.doctypes :=
      Traversal.doctypes_run
    exact hrun.trans (Library.doctypes_of_load hload)

theorem doctypes_resolveAll :
    (session.resolveAll tree sources).library.doctypes = session.library.doctypes :=
  resolveAll_induction (P := fun s => s.library.doctypes = session.library.doctypes)
    (fun _ _ h => doctypes_call.trans h) rfl

/-- **What was asked for was tried**, whatever came of it. -/
theorem identity_mem_resolveAll (hsource : source ∈ sources)
    (hparse : Location.parse source = .ok location) :
    location.identity tree ∈ (session.resolveAll tree sources).library.visited := by
  induction sources generalizing session with
  | nil => cases hsource
  | cons first rest ih =>
    rcases List.mem_cons.1 hsource with rfl | hrest
    · have htried : location.identity tree ∈ (session.call ⟨tree, source⟩).library.visited :=
        visited_load_subset_call (c := ⟨tree, source⟩) hparse Library.identity_mem_load
      have hlater : (session.call ⟨tree, source⟩).library.visited
          ⊆ ((session.call ⟨tree, source⟩).resolveAll tree rest).library.visited :=
        visited_subset_resolveAll
      exact hlater htried
    · exact ih hrest

/-! ## What a session knows -/

/-- What is known of a session whose files stay as they are: why its documents came in, and
that what they refer to was tried. -/
structure Explored (tree : File.Tree) (asked : List Location) (session : Session) : Prop where
  traced : Traced tree asked session.library session.inherited
  closed : session.library.Closed tree

theorem explored_new (config : Config) : Explored tree asked (Session.new config) :=
  ⟨Traced.empty config.doctypes, fun _ h => absurd h List.not_mem_nil⟩

/-- **A call keeps what is known**, if what it asks for counts as asked for. -/
theorem Explored.call (h : Explored tree asked session)
    (hasked : ∀ location, Location.parse source = .ok location → location ∈ asked) :
    Explored tree asked (session.call ⟨tree, source⟩) := by
  cases hparse : Location.parse source with
  | error cause =>
    simp only [Session.call, resolve, hparse]
    exact h
  | ok location =>
    have hreached : Reached asked session.library.documents location none :=
      Reached.asked (hasked location hparse)
    rcases hload : session.library.load tree location with ⟨library, outcome⟩
    rcases outcome with cause | ⟨root⟩ | _
    · rw [call_eq_of_not_loaded (c := ⟨tree, source⟩) hparse hload (by simp)]
      refine ⟨h.traced.tried hreached hload, ?_⟩
      obtain ⟨-, -, rfl⟩ := Library.load_eq_error hload
      exact fun lead hlead => List.mem_cons_of_mem _ (h.closed lead hlead)
    · rw [call_eq_of_loaded (c := ⟨tree, source⟩) hparse hload]
      have hid := (Library.load_eq_loaded_append hload).1
      have hfollowed : Traversal.Followed tree (.ofRoot library session.inherited root) :=
        Traversal.Followed.ofRoot h.closed hload session.inherited
      have htraced : Traced tree asked library session.inherited :=
        h.traced.loaded hreached hload fun id => by
          split
          · exact h.traced.vacant id (by omega)
          · rfl
      exact ⟨Traversal.traced_run hfollowed htraced,
        hfollowed.run.closed (Traversal.stack_run ..)⟩
    · rw [call_eq_of_not_loaded (c := ⟨tree, source⟩) hparse hload (by simp)]
      obtain ⟨-, rfl⟩ := Library.load_eq_alreadyLoaded hload
      exact h

/-- **A document stands at a proper location**, if what was asked for is proper. -/
theorem Explored.isProper (h : Explored tree asked session)
    (hasked : ∀ location ∈ asked, location.IsProper) {document : Document}
    (hmem : document ∈ session.library.documents) : document.location.IsProper := by
  -- A document came in by a reference of one that came in before.
  induction hid : document.id using Nat.strong_induction_on generalizing document with
  | _ n ih =>
    have hreached := h.traced.reached document hmem
    generalize document.location = location at hreached ⊢
    generalize session.inherited.lookup document.id = target at hreached
    cases hreached with
    | asked hlocation => exact hasked _ hlocation
    | @lead lead hbefore hlead =>
      have hlt := h.traced.numbered.id_lt_of_mem_take hbefore
      have hold := List.mem_of_mem_take hbefore
      have hown := ih _ (hid ▸ hlt) hold rfl
      exact Location.isProper_of_join (h.traced.sourced.read _ hold) hown
        (Document.mem_leads.1 hlead).2.2

/-- The locations that some texts name. -/
def locations (sources : List String) : List Location :=
  sources.filterMap fun source => (Location.parse source).toOption

theorem mem_locations :
    location ∈ locations sources ↔ ∃ source ∈ sources, Location.parse source = .ok location := by
  rw [locations, List.mem_filterMap]
  refine exists_congr fun source => and_congr_right fun _ => ?_
  cases Location.parse source with
  | error => simp [Except.toOption]
  | ok other => simp [Except.toOption]

theorem isProper_of_mem_locations (h : location ∈ locations sources) : location.IsProper := by
  obtain ⟨source, -, hparse⟩ := mem_locations.1 h
  exact Location.isProper_of_parse hparse

theorem identity_mem_of_mem_locations (h : location ∈ locations sources) :
    location.identity tree ∈ (session.resolveAll tree sources).library.visited := by
  obtain ⟨source, hsource, hparse⟩ := mem_locations.1 h
  exact identity_mem_resolveAll hsource hparse

theorem explored_resolveAll (h : Explored tree asked session)
    (hasked : locations sources ⊆ asked) : Explored tree asked (session.resolveAll tree sources) :=
  resolveAll_induction (fun source hsource hs => hs.call fun _ hparse =>
    hasked (mem_locations.2 ⟨source, hsource, hparse⟩)) h

/-! ## Asking again -/

/-- Where a file was tried, asking for it changes nothing. -/
theorem resolve_of_mem_visited (hparse : Location.parse source = .ok location)
    (hmem : location.identity tree ∈ session.library.visited) :
    session.resolve tree source = (session, .ok .alreadyLoaded) := by
  simp only [resolve, hparse, load, Library.load, if_pos hmem]

/-- What is asked for twice, in two spellings, is as good as asked for once. -/
theorem resolveAll_again {again : String} {location' : Location}
    (hparse : Location.parse source = .ok location)
    (hparse' : Location.parse again = .ok location')
    (hidentity : location'.identity tree = location.identity tree) :
    session.resolveAll tree [source, again] = session.call ⟨tree, source⟩ := by
  have htried : location'.identity tree ∈ (session.call ⟨tree, source⟩).library.visited := by
    rw [hidentity]
    exact visited_load_subset_call (c := ⟨tree, source⟩) hparse Library.identity_mem_load
  show (session.call ⟨tree, source⟩).call ⟨tree, again⟩ = session.call ⟨tree, source⟩
  rw [call, resolve_of_mem_visited hparse' htried]

/-- **What was asked for and what is referred to is known.** Let a new session be asked for some
locations, over files that stay as they are. A location that was asked for, be it with a
document or in vain, and one that a reference of a document leads to, need not be asked for
again, after any further calls, and neither need a location of the same place, if both are known by
the place: it is already there, and the session stays as it is in all its parts. -/
theorem resolve_known (config : Config) (tree : File.Tree) (before after : List String)
    {known location : Location} {source : String}
    (hknown : (∃ earlier ∈ before, Location.parse earlier = .ok known) ∨
      ∃ document ∈ ((Session.new config).resolveAll tree before).library.documents,
        ∃ reference ∈ DocumentReference.ofRoot document.root,
          document.location.join reference.location = .ok known)
    (hparse : Location.parse source = .ok location)
    (hplace : location.place tree = known.place tree)
    (hsame : location = known ∨ location.IsKnownByPlace tree ∧ known.IsKnownByPlace tree) :
    let session := ((Session.new config).resolveAll tree before).resolveAll tree after
    session.resolve tree source = (session, .ok .alreadyLoaded) := by
  intro session
  have htried : known.identity tree
      ∈ ((Session.new config).resolveAll tree before).library.visited := by
    rcases hknown with ⟨earlier, hearlier, hsame⟩ | ⟨document, hmem, reference, href, hjoin⟩
    · exact identity_mem_resolveAll hearlier hsame
    · have hexplored : Explored tree (locations before)
          ((Session.new config).resolveAll tree before) :=
        explored_resolveAll (explored_new config) (List.Subset.refl _)
      have hlead : (⟨document, reference, known⟩ : Lead)
          ∈ ((Session.new config).resolveAll tree before).library.leads :=
        Library.mem_leads.2 ⟨hmem, Document.mem_leads.2 ⟨rfl, href, hjoin⟩⟩
      exact hexplored.closed _ hlead
  have hidentity : location.identity tree = known.identity tree := by
    rcases hsame with rfl | ⟨hlocation, hknown⟩
    · rfl
    · exact Location.identity_eq_of_place_eq hplace hknown hlocation
  refine resolve_of_mem_visited hparse ?_
  rw [hidentity]
  exact visited_subset_resolveAll htried

/-- Two schemas that import each other, and one of them a file that is not there. -/
def mutualImports : File.Tree :=
  .ofTexts
    [("a", Schema.text "" "<s:import schemaLocation='b'/><s:import schemaLocation='missing'/>"),
      ("b", Schema.text "" "<s:import schemaLocation='a'/><s:simpleType name='T'/>")]

/-- The missing file, which was not asked for itself, and the file that closes the circle,
under another spelling, are already there. -/
theorem resolve_known_mutualImports :
    let session := ((Session.new {}).resolveAll mutualImports ["a"]).resolveAll mutualImports ["c"]
    session.resolve mutualImports "missing" = (session, .ok .alreadyLoaded) ∧
      session.resolve mutualImports "./b" = (session, .ok .alreadyLoaded) := by
  have hleads : ∀ name ∈ ["missing", "b"],
      ∃ document ∈ ((Session.new {}).resolveAll mutualImports ["a"]).library.documents,
        ∃ reference ∈ DocumentReference.ofRoot document.root,
          document.location.join reference.location = .ok (.file (.text name)) := by
    decide +kernel
  have hmissing : ∃ document ∈ ((Session.new {}).resolveAll mutualImports ["a"]).library.documents,
      ∃ reference ∈ DocumentReference.ofRoot document.root,
        document.location.join reference.location = .ok (.file "missing") :=
    hleads "missing" (by decide)
  have hb : ∃ document ∈ ((Session.new {}).resolveAll mutualImports ["a"]).library.documents,
      ∃ reference ∈ DocumentReference.ofRoot document.root,
        document.location.join reference.location = .ok (.file "b") :=
    hleads "b" (by decide)
  have hplace : (Location.file "./b").place mutualImports
      = (Location.file "b").place mutualImports := by
    decide +kernel
  have hspellings : (Location.file "./b").IsKnownByPlace mutualImports ∧
      (Location.file "b").IsKnownByPlace mutualImports := by
    decide +kernel
  exact ⟨resolve_known {} mutualImports ["a"] ["c"] (Or.inr hmissing) rfl rfl (Or.inl rfl),
    resolve_known {} mutualImports ["a"] ["c"] (Or.inr hb) rfl hplace (Or.inr hspellings)⟩

/-- A document without references comes in by itself. -/
theorem library_call_of_leaf {library : Library} {root : Document}
    (hparse : Location.parse c.source = .ok location)
    (hload : session.library.load c.tree location = (library, .ok (.loaded root)))
    (hleaf : DocumentReference.ofRoot root.root = []) : (session.call c).library = library := by
  have hstack : (Traversal.ofRoot library session.inherited root).stack = [⟨root, []⟩] := by
    rw [Traversal.ofRoot, Frame.enter, hleaf]
  rw [call_eq_of_loaded hparse hload, library_takeIn, library_arrived, traversal,
    Traversal.run_of_stack_cons hstack, Traversal.run_of_stack_nil rfl]
  rfl

/-- **A file whose canonical path cannot be worked out is not known in another spelling**: it comes
in again. -/
theorem deep_file_is_not_known :
    let tree := File.Tree.deepFile "<r/>"
    let session := (Session.new {}).resolveAll tree ["a"]
    tree.WorksInside ∧ Location.parse "a" = .ok (.file "a") ∧
      Location.parse "./a" = .ok (.file "./a") ∧
      (Location.file "./a").place tree = (Location.file "a").place tree ∧
      session.library.documents.length = 1 ∧
      (session.call ⟨tree, "./a"⟩).library.documents.length = 2 := by
  intro tree session
  obtain ⟨hparse, hresolve, hread, hidentity⟩ :=
    Location.deepFile_spellings false "<r/>" "a" (by decide)
  obtain ⟨hparse', hresolve', hread', hidentity'⟩ :=
    Location.deepFile_spellings false "<r/>" "./a" (by decide)
  have hplace : (Location.file "./a").place tree = (Location.file "a").place tree :=
    (File.Tree.place_of_resolve hresolve').trans (File.Tree.place_of_resolve hresolve).symm
  obtain ⟨element, helement, hleaf⟩ : ∃ element ∈ (Xml.Element.parse false "<r/>").toOption,
      DocumentReference.ofRoot element = [] := by
    decide +kernel
  have huntried : (Location.file "a").identity tree ∉ (Session.new {}).library.visited :=
    List.not_mem_nil
  obtain ⟨library, root, hload, hroot, -⟩ :=
    Library.exists_load_eq_loaded huntried (hread.trans helement)
  obtain ⟨-, -, hvisited, hdocuments⟩ := Library.load_eq_loaded hload
  have hlibrary : session.library = library :=
    library_call_of_leaf (c := ⟨tree, "a"⟩) hparse hload (hroot ▸ hleaf)
  have hdoctypes : session.library.doctypes = false := doctypes_resolveAll
  have hnew : (Location.file "./a").identity tree ∉ session.library.visited := by
    rw [hlibrary, hvisited, hidentity, hidentity']
    decide
  obtain ⟨library', root', hload', hroot', -⟩ :=
    Library.exists_load_eq_loaded hnew (hdoctypes ▸ hread'.trans helement)
  have hdocuments' := (Library.load_eq_loaded_append hload').2
  have hlibrary' : (session.call ⟨tree, "./a"⟩).library = library' :=
    library_call_of_leaf (c := ⟨tree, "./a"⟩) hparse' hload' (hroot' ▸ hleaf)
  have hone : session.library.documents.length = 1 := by
    rw [hlibrary, hdocuments]
    rfl
  refine ⟨File.Tree.worksInside_deepFile, hparse, hparse', hplace, hone, ?_⟩
  rw [hlibrary', hdocuments', List.length_append, hone]
  rfl

end Session

end WsdlTypes
