import Mathlib.Data.List.Flatten
import WsdlTypes.Proofs.Session.Orderly
/-!
# The order of roots

While the files stay as they are and the documents are in order, the types of a session are what
its documents declare, seen from all documents together (`Told`): a call on the way sees fewer of
them, but all that matters for what it takes in. So it does not matter in which order a session is
asked for some locations (`types_of_perm`).
-/

namespace WsdlTypes.Session

variable {config : Config} {tree : File.Tree} {asked : List Location} {session full : Session}
variable {source : String} {sources : List String}

/-! ## Names -/

/-- The names in the schemas of some documents. -/
def namesOf (session : Session) (documents : List Document) : List ExpandedName :=
  documents.flatMap fun document => (session.schemasOf document).flatMap Schema.names

theorem flatMap_names_catalog :
    session.catalog.schemas.flatMap Schema.names = session.namesOf session.library.documents :=
  List.flatMap_assoc

/-- A session that has some of the documents has no name that comes twice, if the later one has
none. -/
theorem Tidy.nodup_namesOf (h : session.Tidy) (l : List Call)
    (hnames : ((session.calls l).namesOf (session.calls l).library.documents).Nodup) :
    (session.namesOf session.library.documents).Nodup := by
  have hkeeps : Keeps session (session.calls l) := (h.calls l).2
  have hown : (session.calls l).namesOf session.library.documents
      = session.namesOf session.library.documents :=
    List.flatMap_congr fun document hmem => by rw [hkeeps.schemasOf_eq hmem]
  rw [← hown]
  exact ((h.documents_prefix l).sublist.flatMap _).nodup hnames

/-! ## Types -/

/-- The types of a session are what its documents declare, seen from all documents of another
one. -/
def Told (config : Config) (tree : File.Tree) (full session : Session) : Prop :=
  ∀ key type, (session.types.get? key).map (TypeDescriptor.located tree) = some type ↔
    ∃ document ∈ session.library.documents, ∃ document' ∈ full.library.documents,
      document'.SameFile tree document ∧ Describes config tree full document' key type

theorem told_new : Told config tree full (Session.new config) := by
  intro key type
  simp [Session.new]

section

variable (hwork : tree.WorksInside) (hfull : Reader config tree asked full)
variable (htried : ∀ location ∈ asked, location.identity tree ∈ full.library.visited)
variable (horderly : full.Orderly tree)

include hwork hfull htried horderly

/-- The name of a type is one of those that the documents declare. -/
theorem Told.mem_namesOf {later : Session} (h : Told config tree full session)
    (hlater : Reader config tree asked later) (hkeeps : Keeps session later)
    {key : ExpandedName} (hkey : key ∈ session.types.keys) :
    key ∈ later.namesOf session.library.documents := by
  obtain ⟨own, hown⟩ := SortedMap.mem_keys_iff.1 hkey
  obtain ⟨document, hmem, document', hmem', hsame, schema, hschema, e, he, htype, hname⟩ :=
    (h key (own.located tree)).1 (by rw [hown, Option.map_some])
  obtain ⟨type, htype, hlocated⟩ := Option.map_eq_some_iff.1 htype
  refine List.mem_flatMap.2 ⟨document, hmem, ?_⟩
  rw [flatMap_names_eq (hlater.contents_eq hwork hfull htried horderly.includes
    (hkeeps.documents hmem) hmem' hsame.symm)]
  refine List.mem_flatMap.2 ⟨schema, hschema, List.mem_filterMap.2 ⟨e, he, ?_⟩⟩
  rw [Declaration.nameOf?_of_describeAny htype, ← hname, ← hlocated]
  rfl

/-- **The types after a call** are those from before, and what the new documents declare: no
name is taken twice. -/
theorem Told.get?_call (h : Told config tree full session) (htidy : session.Tidy) {c : Call}
    (hnext : Reader config tree asked (session.call c))
    (hnodup : ((session.call c).namesOf (session.call c).library.documents).Nodup) :
    ∃ fresh, (session.call c).library.documents = session.library.documents ++ fresh ∧
      ∀ key own, (session.call c).types.get? key = some own ↔
        session.types.get? key = some own ∨
          ∃ document ∈ fresh, ∃ schema ∈ (session.call c).schemasOf document,
            ∃ e ∈ schema.declarations,
              (Declaration.describeAny config (session.call c).catalog schema e).value
                = some own ∧ own.key = key := by
  obtain ⟨fresh, hdocuments, hperm⟩ := schemasOf_order (c := c) htidy.numbered
  have hnames : (((session.call c).catalog.schemasOf (session.order c)).flatMap Schema.names).Perm
      ((session.call c).namesOf fresh) := by
    rw [namesOf, ← List.flatMap_assoc]
    exact hperm.flatMap_right _
  rw [hdocuments, namesOf, List.flatMap_append, List.nodup_append] at hnodup
  obtain ⟨-, hnodup, hdisjoint⟩ := hnodup
  have hconfig : session.config = config := (config_call session c).symm.trans hnext.configured
  refine ⟨fresh, hdocuments, fun key own => ?_⟩
  rw [types_call, Walk.get?_documents, exists_declarationsOf_iff hperm, hconfig]
  · exact hnames.nodup_iff.2 hnodup
  · intro name hname hold
    exact hdisjoint name (h.mem_namesOf hwork hfull htried horderly hnext (htidy.call c).2 hold)
      name (hnames.mem_iff.1 hname) rfl

/-- **A call takes in what its documents declare**, as if all documents were there. -/
theorem Told.call (h : Told config tree full session) (htidy : session.Tidy) {c : Call}
    (hnext : Reader config tree asked (session.call c))
    (hnodup : ((session.call c).namesOf (session.call c).library.documents).Nodup) :
    Told config tree full (session.call c) := by
  obtain ⟨fresh, hdocuments, hget⟩ :=
    Told.get?_call hwork hfull htried horderly h htidy hnext hnodup
  have hold : session.library.documents ⊆ (session.call c).library.documents :=
    (htidy.call c).2.documents
  have hfresh : fresh ⊆ (session.call c).library.documents := by
    rw [hdocuments]
    exact List.subset_append_right _ _
  intro key type
  rw [Option.map_eq_some_iff]
  constructor
  · rintro ⟨own, hown, rfl⟩
    rcases (hget key own).1 hown with hown | ⟨document, hmem, schema, hschema, e, he, htype, rfl⟩
    · obtain ⟨document, hmem, hdescribed⟩ := (h key _).1 (by rw [hown, Option.map_some])
      exact ⟨document, hold hmem, hdescribed⟩
    · obtain ⟨document', hmem', hsame⟩ :=
        hnext.exists_counterpart hwork hfull htried (hfresh hmem)
      refine ⟨document, hfresh hmem, document', hmem', hsame.symm, ?_⟩
      refine (Reader.describes_iff hwork hfull hnext htried horderly hmem' (hfresh hmem)
        hsame.symm).1 ⟨schema, hschema, e, he, ?_, rfl⟩
      rw [htype, Option.map_some]
  · rintro ⟨document, hmem, document', hmem', hsame, hdescribes⟩
    rw [hdocuments] at hmem
    rcases List.mem_append.1 hmem with hmem | hnew
    · obtain ⟨own, hown, hlocated⟩ := Option.map_eq_some_iff.1
        ((h key type).2 ⟨document, hmem, document', hmem', hsame, hdescribes⟩)
      exact ⟨own, (hget key own).2 (Or.inl hown), hlocated⟩
    · obtain ⟨schema, hschema, e, he, htype, rfl⟩ := (Reader.describes_iff hwork hfull hnext htried
        horderly hmem' (hfresh hnew) hsame).2 hdescribes
      obtain ⟨own, hown, rfl⟩ := Option.map_eq_some_iff.1 htype
      exact ⟨own, (hget _ own).2 (Or.inr ⟨document, hnew, schema, hschema, e, he, hown, rfl⟩), rfl⟩

end

/-! ## All calls -/

/-- What holds of a session at the end holds of it on its way. -/
theorem Reader.of_resolveAll (h : Reader config tree asked (session.resolveAll tree sources))
    (hexplored : Explored tree asked session) : Reader config tree asked session where
  configured := (config_calls session _).symm.trans h.configured
  doctypes := doctypes_resolveAll.symm.trans h.doctypes
  explored := hexplored
  proper := h.proper
  fair location hlocation := by
    have htidy : session.Tidy := ⟨hexplored.traced.numbered, hexplored.traced.vacant⟩
    have hkeeps : Keeps session (session.resolveAll tree sources) := (htidy.calls _).2
    refine h.fair location ((List.append_subset.2 ⟨List.subset_append_left _ _, ?_⟩) hlocation)
    exact List.subset_append_of_subset_right _
      (List.map_subset _ (Library.leads_subset hkeeps.documents))

/-- **The types at the end are what all documents declare**, whichever call took them in. -/
theorem Told.resolveAll (hwork : tree.WorksInside) (hfull : Reader config tree asked full)
    (htried : ∀ location ∈ asked, location.identity tree ∈ full.library.visited)
    (horderly : full.Orderly tree) (h : Told config tree full session)
    (hexplored : Explored tree asked session) (hasked : locations sources ⊆ asked)
    (hlast : Reader config tree asked (session.resolveAll tree sources))
    (hnames : ((session.resolveAll tree sources).namesOf
      (session.resolveAll tree sources).library.documents).Nodup) :
    Told config tree full (session.resolveAll tree sources) := by
  induction sources generalizing session with
  | nil => exact h
  | cons source rest ih =>
    have hfirst : ∀ location, Location.parse source = .ok location → location ∈ asked :=
      fun location hparse => hasked (mem_locations.2 ⟨source, List.mem_cons_self, hparse⟩)
    have hrest : locations rest ⊆ asked := fun location hlocation => by
      obtain ⟨other, hother, hparse⟩ := mem_locations.1 hlocation
      exact hasked (mem_locations.2 ⟨other, List.mem_cons_of_mem _ hother, hparse⟩)
    have hexplored' : Explored tree asked (session.call ⟨tree, source⟩) := hexplored.call hfirst
    have hnext : Reader config tree asked (session.call ⟨tree, source⟩) :=
      Reader.of_resolveAll hlast hexplored'
    have htidy : session.Tidy := ⟨hexplored.traced.numbered, hexplored.traced.vacant⟩
    have hstep : Told config tree full (session.call ⟨tree, source⟩) :=
      h.call hwork hfull htried horderly htidy hnext ((htidy.call _).1.nodup_namesOf _ hnames)
    exact ih hstep hexplored' hrest hlast hnames

/-- A new session reads what it is asked for. -/
theorem reader_resolveAll (hasked : locations sources ⊆ asked)
    (hproper : ∀ location ∈ asked, location.IsProper)
    (hfair : ∀ location ∈ asked ++
      ((Session.new config).resolveAll tree sources).library.leads.map Lead.location,
      location.Fair tree) :
    Reader config tree asked ((Session.new config).resolveAll tree sources) where
  configured := config_calls _ _
  doctypes := doctypes_resolveAll
  explored := explored_resolveAll (explored_new config) hasked
  proper := hproper
  fair := hfair

/-- A schema that imports another one, and lists values of a type that is declared there. -/
def listedImport : File.Tree :=
  .ofTexts
    [("a", Schema.text "" <|
      "<s:import schemaLocation='b'/><s:simpleType name='U'>"
        ++ "<s:restriction base='T'><s:enumeration value='1'/></s:restriction></s:simpleType>"),
      ("b", Schema.text "" "<s:simpleType name='T'><s:restriction base='s:int'/></s:simpleType>")]

/-- A schema of one type. -/
def oneType : File.Tree := .ofTexts [("a", Schema.text "" "<s:simpleType name='T'/>")]

end WsdlTypes.Session
