import WsdlTypes.Proofs.Session.Schemas
import WsdlTypes.Proofs.Traversal.Heir
import WsdlTypes.Proofs.Walk.Domain
/-!
# The names of a session

What a document takes over is settled by the call that brings it in, so the namespaces of its
schemas stay what they are (`Keeps`). This makes the names of the types a matter of the
documents alone: at any time they are those that a schema of some document declares, in the
namespace that this schema has (`mem_keys_iff_declared`).
-/

namespace WsdlTypes

namespace Session

variable {session later : Session} {c : Call} {document : Document} {key : ExpandedName}

/-- The namespace of a schema in a document: its own, or else the one that the document takes
over, or else the empty one. -/
def namespaceOf (session : Session) (document : Document) (schema : Xml.Element) : String :=
  (schema.attribute? "targetNamespace").getD ((session.inherited.lookup document.id).getD "")

/-- A document has a schema that declares a type of a name. -/
def Declared (session : Session) (document : Document) (key : ExpandedName) : Prop :=
  ∃ schema ∈ document.root.descendants schemaUri "schema",
    session.namespaceOf document schema = key.uri ∧ DeclaresType key.uri key.name schema

/-- That is where its schemas have a declaration of the name. -/
theorem declared_iff {config : Config} {catalog : Catalog} :
    (∃ schema ∈ session.schemasOf document, ∃ e ∈ schema.declarations,
        Walk.Declares config catalog (schema, e) key) ↔ session.Declared document key := by
  constructor
  · rintro ⟨schema, hmem, hdeclares⟩
    obtain ⟨element, helement, rfl⟩ := List.mem_map.1 hmem
    obtain ⟨htarget, htype⟩ := Walk.exists_declares_iff.1 hdeclares
    exact ⟨element, helement, htarget, htype⟩
  · rintro ⟨element, helement, htarget, htype⟩
    exact ⟨_, List.mem_map.2 ⟨element, helement, rfl⟩, Walk.exists_declares_iff.2 ⟨htarget, htype⟩⟩

/-! ## Documents stay what they are -/

/-- A session that came later has the documents that there were, and what these take over. -/
structure Keeps (session later : Session) : Prop where
  documents : session.library.documents ⊆ later.library.documents
  inherited : ∀ document ∈ session.library.documents,
    later.inherited.lookup document.id = session.inherited.lookup document.id

theorem Keeps.refl (session : Session) : Keeps session session :=
  ⟨List.Subset.refl _, fun _ _ => rfl⟩

theorem Keeps.trans {last : Session} (h : Keeps session later) (h' : Keeps later last) :
    Keeps session last where
  documents := List.Subset.trans h.documents h'.documents
  inherited document hmem :=
    (h'.inherited document (h.documents hmem)).trans (h.inherited document hmem)

/-- So the schemas of a document keep their namespaces. -/
theorem Keeps.namespaceOf_eq (h : Keeps session later)
    (hmem : document ∈ session.library.documents) (schema : Xml.Element) :
    later.namespaceOf document schema = session.namespaceOf document schema := by
  rw [namespaceOf, namespaceOf, h.inherited document hmem]

/-- And the schemas stay what they are. -/
theorem Keeps.schemasOf_eq (h : Keeps session later)
    (hmem : document ∈ session.library.documents) :
    later.schemasOf document = session.schemasOf document := by
  rw [schemasOf, schemasOf, h.inherited document hmem]

theorem Keeps.declared_iff (h : Keeps session later)
    (hmem : document ∈ session.library.documents) :
    later.Declared document key ↔ session.Declared document key := by
  simp only [Declared, h.namespaceOf_eq hmem]

/-- The documents of a session are numbered, and nothing is noted under a number that is still
to come. -/
structure Tidy (session : Session) : Prop where
  numbered : session.library.Numbered
  vacant : ∀ id, session.library.documents.length ≤ id → session.inherited.lookup id = none

theorem tidy_new (config : Config) : (Session.new config).Tidy :=
  ⟨numbered_new config, fun _ _ => rfl⟩

/-- **A call leaves what documents take over**, and what it notes is under the numbers of those
that it brings in. -/
theorem Tidy.call (h : session.Tidy) (c : Call) :
    (session.call c).Tidy ∧ Keeps session (session.call c) := by
  obtain ⟨hnumbered, fresh, hdocuments, -⟩ := call_order (c := c) h.numbered
  have hsubset : session.library.documents ⊆ (session.call c).library.documents := by
    rw [hdocuments]
    exact List.subset_append_left _ _
  have houtcome := call_outcome session c
  generalize session.call c = next at houtcome hnumbered hsubset
  cases houtcome with
  | quiet => exact ⟨⟨h.numbered, h.vacant⟩, List.Subset.refl _, fun _ _ => rfl⟩
  | @absorbed location library root hparse hload =>
    have hheirs : Traversal.Heirs session.library session.inherited
        (session.traversal c.tree library root) :=
      (Traversal.Heirs.ofRoot h.vacant hload).run
    exact ⟨⟨hnumbered, hheirs.vacant⟩, hsubset,
      fun document hmem => hheirs.kept document.id (h.numbered.id_lt hmem)⟩

theorem Tidy.calls (h : session.Tidy) (l : List Call) :
    (session.calls l).Tidy ∧ Keeps session (session.calls l) :=
  calls_induction (P := fun s => s.Tidy ∧ Keeps session s)
    (fun ih => ⟨(ih.1.call _).1, ih.2.trans (ih.1.call _).2⟩) ⟨h, Keeps.refl session⟩ l

/-- The documents that there were stay in front. -/
theorem Tidy.documents_prefix (h : session.Tidy) (l : List Call) :
    session.library.documents <+: (session.calls l).library.documents :=
  (calls_induction (P := fun s => s.Tidy ∧ session.library.documents <+: s.library.documents)
    (fun {s c} ih => by
      obtain ⟨-, fresh, hdocuments, -⟩ := call_order (c := c) ih.1.numbered
      refine ⟨(ih.1.call c).1, ih.2.trans ?_⟩
      rw [hdocuments]
      exact List.prefix_append _ _) ⟨h, List.prefix_refl _⟩ l).2

/-! ## The names -/

/-- The names of the types are those that the documents declare. -/
def Complete (session : Session) : Prop :=
  ∀ key, key ∈ session.types.keys ↔ ∃ document ∈ session.library.documents,
    session.Declared document key

/-- **A call adds the names that the new documents declare**, and those that were there are
declared as they were. -/
theorem Complete.call (h : session.Complete) (htidy : session.Tidy) (c : Call) :
    (session.call c).Complete := by
  intro key
  obtain ⟨fresh, hdocuments, hkeys⟩ := mem_keys_call_iff (c := c) htidy.numbered
  have hkeeps : Keeps session (session.call c) := (htidy.call c).2
  have hold : key ∈ session.types.keys ↔ ∃ document ∈ session.library.documents,
      (session.call c).Declared document key := by
    rw [h key]
    exact exists_congr fun document => and_congr_right fun hmem => (hkeeps.declared_iff hmem).symm
  rw [hkeys, hold, hdocuments]
  simp only [declared_iff, List.mem_append, or_and_right, exists_or]

/-- **The names of the types.** After any calls, whatever the files were at each of them, a
name is a type of the session exactly where a schema of some document declares it: the
namespace of the name is the one that the schema declares, or else the one that its document
takes over, or else empty; and the schema has a complex or a simple type of the local name, or
an element of it whose type is declared in place, is not given, or is another declaration's.
And whatever is called later, a document stays with the namespaces that its schemas have. -/
theorem mem_keys_iff_declared (config : Config) (l : List Call) :
    let session := (Session.new config).calls l
    (∀ key, key ∈ session.types.keys ↔
        ∃ document ∈ session.library.documents,
          ∃ schema ∈ document.root.descendants schemaUri "schema",
            session.namespaceOf document schema = key.uri ∧
              DeclaresType key.uri key.name schema) ∧
      ∀ more : List Call, ∀ document ∈ session.library.documents,
        document ∈ (session.calls more).library.documents ∧
          ∀ schema, (session.calls more).namespaceOf document schema
            = session.namespaceOf document schema := by
  intro session
  have hsession : session.Tidy ∧ session.Complete :=
    calls_induction (P := fun s => s.Tidy ∧ s.Complete)
      (fun ih => ⟨(ih.1.call _).1, ih.2.call ih.1 _⟩)
      ⟨tidy_new config, fun key => by simp [Session.new, SortedMap.keys, SortedMap.empty]⟩ l
  refine ⟨hsession.2, fun more document hmem => ?_⟩
  have hkeeps : Keeps session (session.calls more) := (hsession.1.calls more).2
  exact ⟨hkeeps.documents hmem, hkeeps.namespaceOf_eq hmem⟩

end Session

end WsdlTypes
