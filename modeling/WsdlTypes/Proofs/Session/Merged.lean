import WsdlTypes.Proofs.Session.Stages
import WsdlTypes.Proofs.Walk.Alike
import WsdlTypes.Proofs.Walk.Merged
/-!
# Types as the sum of all declarations

Over any calls the declarations that are walked make one sequence, and so do their descriptors
(`Session.described`). The types of a session are what these descriptors come to, name by name
(`Session.combined_calls`), although each call sees only its own and merges them into what there is;
and every descriptor that gave the types no new name was reported
(`Session.types_combine_declarations`). That a type has the location of its last declaration rests
on every document having one that is not empty (`Library.Written`): no text is read from an empty
path.
-/

namespace WsdlTypes

/-! ## Where documents are -/

/-- No document has an empty location. -/
def Library.Written (library : Library) : Prop :=
  ∀ document ∈ library.documents, document.location.display ≠ ""

/-- Nothing is read from an empty path, and no URL of the web is empty. -/
theorem Location.display_ne_empty_of_fetch {tree : File.Tree} {location : Location} {text : String}
    (h : location.fetch tree = .ok text) : location.display ≠ "" := by
  rcases fetch_eq_ok_iff.1 h with ⟨path, rfl, hread⟩ | ⟨address, rfl, hdownload⟩
  · rintro rfl
    cases hread
  · have hweb := (Url.download_eq_ok_iff.1 hdownload).1
    intro hempty
    change address.render = "" at hempty
    rw [hempty] at hweb
    cases hweb

namespace Library

variable {library library' : Library} {tree : File.Tree} {location : Location}
variable {document : Document}

theorem Written.loaded (h : library.Written)
    (hload : library.load tree location = (library', .ok (.loaded document))) :
    library'.Written := by
  obtain ⟨-, hopen, -, hdocuments⟩ := load_eq_loaded hload
  obtain ⟨hfetch, -, -, hlocation⟩ := open?_eq_ok_iff.1 hopen
  intro d hd
  rw [hdocuments] at hd
  rcases List.mem_append.1 hd with hold | hlast
  · exact h d hold
  · rw [List.mem_singleton.1 hlast, hlocation]
    exact Location.display_ne_empty_of_fetch hfetch

theorem Written.of_documents_eq (h : library.Written)
    (hdocuments : library'.documents = library.documents) : library'.Written := by
  rw [Written, hdocuments]
  exact h

end Library

theorem Traversal.written_run {tree : File.Tree} {t : Traversal} (h : t.library.Written) :
    (run tree t).library.Written := by
  refine run_induction (P := fun t => t.library.Written) (fun hmove h => ?_) h
  cases hmove with
  | leave => exact h
  | enter _ hfollow =>
    obtain ⟨location, -, hload⟩ := Library.follow_eq_ok hfollow
    exact h.loaded hload
  | pass _ hfollow => exact h.of_documents_eq (Library.documents_follow_of_alreadyLoaded hfollow)
  | fail _ hfollow => exact h.of_documents_eq (Library.documents_follow_of_error hfollow)

namespace Session

variable {session : Session} {c : Call}

theorem written_call (h : session.library.Written) : (session.call c).library.Written := by
  have houtcome := call_outcome session c
  generalize session.call c = next at houtcome
  cases houtcome with
  | quiet => exact h
  | absorbed _ hload =>
    rw [library_takeIn, library_arrived]
    exact Traversal.written_run (h.loaded hload)

/-! ## What is described -/

/-- The declarations that some calls walk, in the order in which they are walked, each with the
documents that it is described among. -/
def declarations (session : Session) : List Call → List (Catalog × Schema × Xml.Element)
  | [] => []
  | c :: rest =>
    ((session.call c).catalog.declarationsOf (session.order c)).map
        (fun d => ((session.call c).catalog, d))
      ++ (session.call c).declarations rest

/-- The descriptor of a declaration among some documents, if it has one. -/
def descriptor? (config : Config) (d : Catalog × Schema × Xml.Element) : Option TypeDescriptor :=
  (Declaration.describeAny config d.1 d.2.1 d.2.2).value

/-- The descriptors of all that some calls walk, in order. -/
def described (session : Session) (l : List Call) : List TypeDescriptor :=
  (session.declarations l).filterMap (descriptor? session.config)

theorem described_cons (l : List Call) :
    session.described (c :: l)
      = Walk.descriptors session.config (session.call c).catalog
          ((session.call c).catalog.declarationsOf (session.order c))
        ++ (session.call c).described l := by
  rw [described, declarations, List.filterMap_append, List.filterMap_map, described, config_call]
  rfl

/-- A descriptor has the location of the document, which is not empty. -/
theorem location_ne_empty_of_mem_descriptors (h : session.library.Written) {order : List Nat}
    {config : Config} {type : TypeDescriptor}
    (hmem : type ∈ Walk.descriptors config session.catalog (session.catalog.declarationsOf order)) :
    type.location ≠ "" := by
  obtain ⟨d, hd, hdescribe⟩ := List.mem_filterMap.1 hmem
  obtain ⟨document, hdocument, hschema, -⟩ := exists_of_mem_declarationsOf hd
  rw [Declaration.location_describeAny hdescribe]
  obtain ⟨e, -, heq⟩ := List.mem_map.1 hschema
  rw [← heq]
  exact h document hdocument

/-! ## Sessions -/

/-- **What calls come to** is what the descriptors before them and theirs come to. -/
theorem combined_calls {all : List TypeDescriptor} (hwritten : session.library.Written)
    (h : TypeMap.Combined session.config.valueName all session.types) (l : List Call) :
    TypeMap.Combined session.config.valueName (all ++ session.described l)
      (session.calls l).types := by
  induction l generalizing session all with
  | nil => simpa [described, declarations] using h
  | cons c rest ih =>
    have hcall := written_call (c := c) hwritten
    rw [described_cons, ← List.append_assoc, calls_cons, ← config_call (c := c)]
    refine ih hcall ?_
    rw [config_call, types_call]
    exact Walk.combined_documents
      (fun _ hmem => location_ne_empty_of_mem_descriptors hcall hmem) h

theorem combined_new_calls (config : Config) (l : List Call) :
    TypeMap.Combined config.valueName ((Session.new config).described l)
      ((Session.new config).calls l).types := by
  have hwritten : (Session.new config).library.Written := fun _ h => absurd h List.not_mem_nil
  exact combined_calls hwritten (TypeMap.combined_empty _) l

/-- A call reports its duplicates. -/
theorem duplicates_call :
    (session.call c).findings.countP Walk.isDuplicate + (session.call c).types.size
      = session.findings.countP Walk.isDuplicate + session.types.size
        + (Walk.descriptors session.config (session.call c).catalog
            ((session.call c).catalog.declarationsOf (session.order c))).length := by
  have hduring : ∀ s : Session,
      s.findings.countP Walk.isDuplicate = (s.during .description).countP Walk.isDuplicate := by
    intro s
    rw [List.countP_eq_length_filter, List.countP_eq_length_filter]
    refine congrArg List.length (filter_during (p := fun problem =>
      problem.kind = .duplicateTypeDefinition) fun problem h => ?_).symm
    cases problem with
    | duplicateType => rfl
    | _ => simp [Problem.kind] at h
  rw [hduring, hduring session, during_description_call, List.countP_append, types_call]
  have hwalk := Walk.duplicates_documents session.config (session.call c).catalog session.types
    (session.order c)
  rw [walked]
  omega

theorem duplicates_calls (session : Session) (l : List Call) :
    (session.calls l).findings.countP Walk.isDuplicate + (session.calls l).types.size
      = session.findings.countP Walk.isDuplicate + session.types.size
        + (session.described l).length := by
  induction l generalizing session with
  | nil => rfl
  | cons c rest ih =>
    rw [calls_cons, ih, duplicates_call, described_cons, List.length_append, Nat.add_assoc]

/-- **Merging loses nothing and adds nothing.** After any calls the names of the types are those of
the declarations that were walked and have a descriptor. A type is what the descriptors of its
name come to in the order in which they were walked, over all calls: their properties one after the
other, the location of the last, the last documentation and the last parent that there is, and no
parent at all where there are two or more of them and any has a value. And for each descriptor
there is a type, or else a diagnostic that its name is taken. -/
theorem types_combine_declarations (config : Config) (l : List Call) :
    let session := (Session.new config).calls l
    let all := (Session.new config).described l
    (∀ key, key ∈ session.types.keys ↔ ∃ part ∈ all, part.key = key) ∧
      (∀ key type, session.types.get? key = some type →
        type.Combines config.valueName (all.filter fun part => part.key = key)) ∧
      (session.diagnostics.countP fun diagnostic =>
          diagnostic.kind = .duplicateTypeDefinition) + session.types.size = all.length := by
  intro session all
  have hcombined : TypeMap.Combined config.valueName all session.types := combined_new_calls config l
  refine ⟨hcombined.mem_keys, hcombined.combines, ?_⟩
  have hcount : session.findings.countP Walk.isDuplicate + session.types.size
      = 0 + 0 + all.length := duplicates_calls (Session.new config) l
  rw [diagnostics, List.countP_map]
  exact hcount.trans (Nat.zero_add _)

end Session

end WsdlTypes
