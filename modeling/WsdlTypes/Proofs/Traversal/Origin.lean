import WsdlTypes.Proofs.Traversal.Traced
/-!
# Where documents come from

A traversal in a library that was empty brings documents in for one reason each: the first
one was asked for, and every other stands at a location that a reference of a document leads
to, and takes over the namespace that this reference hands on (`Origins.came`). At the end
every reference was followed, so the file that it leads to was tried; and a file that was tried
either came in as a document or could not be read at a location that a reference leads to
(`Origins.exists_of_lead`).
-/

namespace WsdlTypes.Traversal

variable {tree : File.Tree} {root : Document} {t t' : Traversal}

/-- What is known of the documents and the files of a traversal that started from a document in
a library that was empty. -/
structure Origins (tree : File.Tree) (root : Document) (t : Traversal) : Prop where
  traced : Traced tree [root.location] t.library t.inherited
  followed : Followed tree t
  rooted : root ∈ t.library.documents

theorem Origins.sourced (h : Origins tree root t) : t.library.Sourced tree := h.traced.sourced

theorem Origins.numbered (h : Origins tree root t) : t.library.Numbered := h.traced.numbered

/-- At the start the one document was asked for, and its references are to be followed. -/
theorem Origins.ofRoot {doctypes : Bool} {library : Library} {location : Location}
    (hload : Library.load { doctypes } tree location = (library, .ok (.loaded root))) :
    Origins tree root (ofRoot library [] root) := by
  obtain ⟨-, hopen, -, hdocuments⟩ := Library.load_eq_loaded hload
  obtain ⟨-, -, -, hlocation⟩ := Library.open?_eq_ok_iff.1 hopen
  have hclosed : Library.Closed tree { doctypes } := fun _ h => absurd h List.not_mem_nil
  have hasked : location ∈ [root.location] := by
    rw [hlocation]
    exact List.mem_singleton_self location
  refine ⟨(Traced.empty doctypes).loaded (Reached.asked hasked) hload fun id => ?_,
    Followed.ofRoot hclosed hload [], ?_⟩
  · exact (ite_self none).symm
  · show root ∈ library.documents
    rw [hdocuments]
    exact List.mem_append_right _ (List.mem_singleton_self root)

/-- **Every move keeps what is known.** -/
theorem Origins.move (hmove : Move tree t t') (h : Origins tree root t) :
    Origins tree root t' where
  traced := traced_move hmove h.followed h.traced
  followed := h.followed.move hmove
  rooted := by
    cases hmove with
    | leave => exact h.rooted
    | pass _ hfollow => exact (Library.documents_follow_of_alreadyLoaded hfollow).symm ▸ h.rooted
    | fail _ hfollow => exact (Library.documents_follow_of_error hfollow).symm ▸ h.rooted
    | @enter _ _ _ _ _ library _ hfollow =>
      show root ∈ library.documents
      rw [(Library.follow_eq_loaded_append hfollow).2]
      exact List.mem_append_left _ h.rooted

theorem Origins.run (h : Origins tree root t) : Origins tree root (run tree t) :=
  run_induction Origins.move h

/-- **Every document but the first came in by a reference** and inherits what this hands on. -/
theorem Origins.came (h : Origins tree root t) (d : Document)
    (hd : d ∈ t.library.documents) (hne : d.id ≠ root.id) :
    ∃ lead ∈ t.library.leads, lead.location = d.location ∧
      t.inherited.lookup d.id = lead.reference.includedInto := by
  have hreached := h.traced.reached d hd
  generalize hlocation : d.location = location at hreached
  generalize hlookup : t.inherited.lookup d.id = target at hreached
  cases hreached with
  | asked hasked =>
    rw [List.mem_singleton.1 hasked] at hlocation
    have hsame : d = root := h.sourced.eq_of_identity_eq hd h.rooted (by rw [hlocation])
    exact absurd (congrArg Document.id hsame) hne
  | lead hdocument hlead =>
    exact ⟨_, Library.mem_leads.2 ⟨List.mem_of_mem_take hdocument, hlead⟩, rfl, rfl⟩

/-- **At the end a reference has brought in what it leads to**, where nothing that leads there
is in vain. -/
theorem Origins.exists_of_lead (h : Origins tree root t) (hend : t.stack = []) {lead : Lead}
    (hlead : lead ∈ t.library.leads)
    (hread : ∀ other ∈ t.library.leads,
      other.location.identity tree = lead.location.identity tree →
      other.location.root? t.library.doctypes tree ≠ none) :
    ∃ d ∈ t.library.documents, d.location.identity tree = lead.location.identity tree := by
  rcases h.traced.accounted _ (h.followed.closed hend lead hlead) with
    hcame | ⟨location, target, hreached, hidentity, hnone⟩
  · exact hcame
  · cases hreached with
    | asked hasked =>
      rw [List.mem_singleton.1 hasked] at hidentity
      exact ⟨root, h.rooted, hidentity⟩
    | lead hdocument hother =>
      exact absurd hnone (hread _ (Library.mem_leads.2 ⟨hdocument, hother⟩) hidentity)

end WsdlTypes.Traversal
