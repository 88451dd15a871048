import WsdlTypes.Proofs.Session.Counterpart
import WsdlTypes.Proofs.Walk.Alike
import WsdlTypes.Proofs.Walk.Distinct
/-!
# Orderly documents

Documents are in order when no two declarations have one name, included schemas declare their
namespaces, and what a document has looked up is declared by a document that it reaches
(`Session.Orderly`). In any session over the same files that has got a document, what is looked
up for it is then found as in a session that has got them all (`Reader.alike`), and so are its
types, whichever call takes them in (`Reader.describes_iff`).
-/

namespace WsdlTypes

/-- A type with the place where it is declared, instead of a spelling of it. -/
def TypeDescriptor.located (tree : File.Tree) (type : TypeDescriptor) : TypeDescriptor :=
  type.movedTo (Location.placeOf tree type.location)

/-! ## Declarations of a name -/

/-- A schema has a declaration that is looked up. -/
def Schema.Offers (schema : Schema) (lookup : Lookup) : Prop :=
  ∃ e ∈ schema.element.children schemaUri lookup.tag, schema.nameOf? e = some lookup.key

instance (schema : Schema) (lookup : Lookup) : Decidable (schema.Offers lookup) :=
  inferInstanceAs (Decidable (∃ e ∈ schema.element.children schemaUri lookup.tag,
    schema.nameOf? e = some lookup.key))

section

variable {schema schema' : Schema} (h : schema.content = schema'.content)

include h

/-- A declaration is called the same wherever its schema stands. -/
theorem Schema.nameOf?_eq_of_content_eq (e : Xml.Element) :
    schema.nameOf? e = schema'.nameOf? e := by
  rw [nameOf?, nameOf?, (Prod.mk.inj h).2]

theorem Schema.names_eq_of_content_eq : schema.names = schema'.names := by
  rw [names, names, declarations, declarations, (Prod.mk.inj h).1]
  exact List.filterMap_congr fun e _ => nameOf?_eq_of_content_eq h e

theorem Schema.Offers.of_content_eq {lookup : Lookup} (hoffers : schema.Offers lookup) :
    schema'.Offers lookup := by
  obtain ⟨e, he, hname⟩ := hoffers
  exact ⟨e, (Prod.mk.inj h).1 ▸ he, nameOf?_eq_of_content_eq h e ▸ hname⟩

end

/-- Where schemas consist of the same, each has one to go with it. -/
theorem exists_content_eq {schemas schemas' : List Schema} {schema : Schema}
    (h : schemas.map Schema.content = schemas'.map Schema.content) (hschema : schema ∈ schemas) :
    ∃ schema' ∈ schemas', schema.content = schema'.content := by
  have hmem := List.mem_map_of_mem (f := Schema.content) hschema
  rw [h] at hmem
  obtain ⟨schema', hschema', heq⟩ := List.mem_map.1 hmem
  exact ⟨schema', hschema', heq.symm⟩

theorem flatMap_names_eq {schemas schemas' : List Schema}
    (h : schemas.map Schema.content = schemas'.map Schema.content) :
    schemas.flatMap Schema.names = schemas'.flatMap Schema.names := by
  induction schemas generalizing schemas' with
  | nil => rw [List.map_eq_nil_iff.1 h.symm]
  | cons first rest ih =>
    cases schemas' with
    | nil => cases h
    | cons first' rest' =>
      rw [List.map_cons, List.map_cons, List.cons.injEq] at h
      rw [List.flatMap_cons, List.flatMap_cons, Schema.names_eq_of_content_eq h.1, ih h.2]

namespace Catalog

variable {catalog : Catalog} {schema : Schema} {lookup : Lookup}

/-- What a schema of a catalog offers is found. -/
theorem exists_declaration?_of_offers (hschema : schema ∈ catalog.schemas)
    (h : schema.Offers lookup) :
    ∃ found, catalog.declaration? lookup.tag lookup.key = some found := by
  obtain ⟨e, he, hname⟩ := h
  obtain ⟨htarget, hlocal⟩ := Schema.nameOf?_eq_some_iff.1 hname
  rw [← Option.isSome_iff_exists, declaration?, List.isSome_findSome?]
  refine List.any_eq_true.2 ⟨schema, hschema, ?_⟩
  rw [if_pos htarget, Option.isSome_map, Schema.declaration?, List.find?_isSome]
  exact ⟨e, he, by simpa using hlocal⟩

/-- What is found is offered by a schema. -/
theorem offers_of_declaration? {found : Schema × Xml.Element}
    (h : catalog.declaration? lookup.tag lookup.key = some found) :
    found.1 ∈ catalog.schemas ∧ found.2 ∈ found.1.element.children schemaUri lookup.tag ∧
      found.1.nameOf? found.2 = some lookup.key := by
  obtain ⟨hschema, htarget, he, hname⟩ := declaration?_eq_some h
  exact ⟨hschema, he, Schema.nameOf?_eq_some_iff.2 ⟨htarget, hname⟩⟩

end Catalog

namespace Session

variable {config : Config} {tree : File.Tree} {asked : List Location} {session other : Session}
variable {document document' : Document} {lookup : Lookup} {key : ExpandedName}

/-- A document has a declaration that is looked up. -/
def Offers (session : Session) (document : Document) (lookup : Lookup) : Prop :=
  ∃ schema ∈ session.schemasOf document, schema.Offers lookup

instance (session : Session) (document : Document) (lookup : Lookup) :
    Decidable (session.Offers document lookup) :=
  inferInstanceAs (Decidable (∃ schema ∈ session.schemasOf document, schema.Offers lookup))

/-- The documents of a session are in order. -/
structure Orderly (tree : File.Tree) (session : Session) : Prop where
  /-- No two top-level elements, complex types and simple types have one name. -/
  types : (session.catalog.schemas.flatMap Schema.names).Nodup
  /-- Nor have two global attributes. -/
  attributes : (session.catalog.keys "attribute").Nodup
  includes : session.IncludesDeclare tree
  /-- What is looked up for a document and is declared in any of them is declared in one that
  the document reaches. -/
  lookups : ∀ document ∈ session.library.documents, ∀ schema ∈ session.schemasOf document,
    ∀ e ∈ schema.declarations, ∀ lookup,
      session.catalog.LooksUp (Lookup.ofDeclaration schema.target e) lookup →
      (∃ other ∈ session.library.documents, session.Offers other lookup) →
      ∃ other, session.library.Reaches tree document other ∧ session.Offers other lookup

/-- What is looked up for documents is near: it is followed by nothing else, and is declared by the
document itself or by one that it refers to. -/
def Near (tree : File.Tree) (session : Session) : Prop :=
  ∀ document ∈ session.library.documents, ∀ schema ∈ session.schemasOf document,
    ∀ e ∈ schema.declarations, ∀ lookup ∈ Lookup.ofDeclaration schema.target e,
      session.catalog.following lookup ⊆ Lookup.ofDeclaration schema.target e ∧
        (session.Offers document lookup ∨ ∃ other ∈ session.library.documents,
          (∃ lead ∈ document.leads,
            lead.location.identity tree = other.location.identity tree) ∧
          session.Offers other lookup)

/-- **Documents are in order** where this can be read off: what is looked up is near. -/
theorem Orderly.of_near (htypes : (session.catalog.schemas.flatMap Schema.names).Nodup)
    (hattributes : (session.catalog.keys "attribute").Nodup)
    (hincludes : session.IncludesDeclare tree) (hnear : session.Near tree) :
    session.Orderly tree where
  types := htypes
  attributes := hattributes
  includes := hincludes
  lookups document hmem schema hschema e he lookup hlookup _ := by
    have hown := hlookup.mem_of_closed (List.Subset.refl _) fun lookup hlookup =>
      (hnear document hmem schema hschema e he lookup hlookup).1
    rcases (hnear document hmem schema hschema e he lookup hown).2 with
      hoffers | ⟨other, hother, hlead, hoffers⟩
    · exact ⟨document, Relation.ReflTransGen.refl, hoffers⟩
    · exact ⟨other, Relation.ReflTransGen.single ⟨hother, hlead⟩, hoffers⟩

theorem orderly_of_documents_eq_nil (h : session.library.documents = []) :
    session.Orderly tree := by
  have hempty : session.catalog.schemas = [] := by
    rw [catalog, Catalog.ofDocuments, h]
    rfl
  refine .of_near ?_ ?_ ?_ ?_
  · rw [hempty]
    exact List.nodup_nil
  · rw [Catalog.keys, hempty]
    exact List.nodup_nil
  · intro document hmem
    rw [h] at hmem
    cases hmem
  · intro document hmem
    rw [h] at hmem
    cases hmem

/-- Two declarations that a name is looked up for are one. -/
theorem Orderly.eq_of_nameOf?_eq (h : session.Orderly tree) (htag : lookup.tag ∈ Lookup.tags)
    {schema schema' : Schema} {e e' : Xml.Element} (hschema : schema ∈ session.catalog.schemas)
    (he : e ∈ schema.element.children schemaUri lookup.tag)
    (hname : schema.nameOf? e = some lookup.key) (hschema' : schema' ∈ session.catalog.schemas)
    (he' : e' ∈ schema'.element.children schemaUri lookup.tag)
    (hname' : schema'.nameOf? e' = some lookup.key) : e = e' := by
  have hdeclared : lookup.tag ≠ "attribute" → ∀ {s : Schema} {e : Xml.Element},
      e ∈ s.element.children schemaUri lookup.tag → e ∈ s.declarations := by
    intro hne s e he
    simp only [Lookup.tags, List.mem_cons, List.not_mem_nil, or_false] at htag
    rcases htag with htag | htag | htag
    · exact List.mem_append_left _ (htag ▸ he)
    · exact absurd htag hne
    · exact List.mem_append_right _ (List.mem_append_right _ (htag ▸ he))
  by_cases hattribute : lookup.tag = "attribute"
  · rw [hattribute] at he he'
    exact Schema.eq_of_nameOf?_eq h.attributes hschema he hname hschema' he' hname'
  · exact Schema.eq_of_nameOf?_eq h.types hschema (hdeclared hattribute he) hname
      hschema' (hdeclared hattribute he') hname'

section

variable (hwork : tree.WorksInside) (h : Reader config tree asked session)
variable (h' : Reader config tree asked other)
variable (htried : ∀ location ∈ asked, location.identity tree ∈ session.library.visited)
variable (horderly : session.Orderly tree)

include hwork h h' htried horderly

/-- A schema of a document in another session is one of the same file here. -/
theorem Reader.exists_schema {schema : Schema} (hschema : schema ∈ other.catalog.schemas) :
    ∃ schema' ∈ session.catalog.schemas, schema.content = schema'.content := by
  obtain ⟨document', hmem', hschema⟩ := mem_schemas_catalog_iff.1 hschema
  obtain ⟨document, hmem, hsame⟩ := h'.exists_counterpart hwork h htried hmem'
  obtain ⟨schema', hschema', hcontent⟩ := exists_content_eq
    (h'.contents_eq hwork h htried horderly.includes hmem' hmem hsame) hschema
  exact ⟨schema', mem_schemas_catalog_iff.2 ⟨document, hmem, hschema'⟩, hcontent⟩

/-- What is found in another session is declared here, too, and found as well. -/
theorem Reader.exists_declaration? (htag : lookup.tag ∈ Lookup.tags) {found' : Schema × Xml.Element}
    (hfound' : other.catalog.declaration? lookup.tag lookup.key = some found') :
    ∃ found, session.catalog.declaration? lookup.tag lookup.key = some found ∧
      found.2 = found'.2 := by
  obtain ⟨hschema', he', hname'⟩ := Catalog.offers_of_declaration? hfound'
  obtain ⟨own, hown, hcontent⟩ := Reader.exists_schema hwork h h' htried horderly hschema'
  have hchild : found'.2 ∈ own.element.children schemaUri lookup.tag :=
    (Prod.mk.inj hcontent).1 ▸ he'
  have hname : own.nameOf? found'.2 = some lookup.key :=
    (Schema.nameOf?_eq_of_content_eq hcontent.symm _).trans hname'
  obtain ⟨found, hfound⟩ := Catalog.exists_declaration?_of_offers hown ⟨found'.2, hchild, hname⟩
  obtain ⟨hschema, he, hfoundname⟩ := Catalog.offers_of_declaration? hfound
  exact ⟨found, hfound, horderly.eq_of_nameOf?_eq htag hschema he hfoundname hown hchild hname⟩

/-- **What is looked up for a document is found alike** in a session with all documents and in
another one that has got the document and what it reaches. -/
theorem Reader.alike (hmem : document ∈ session.library.documents)
    (hmem' : document' ∈ other.library.documents) (hsame : document.SameFile tree document')
    {schema : Schema} (hschema : schema ∈ session.schemasOf document) {e : Xml.Element}
    (he : e ∈ schema.declarations) :
    Catalog.Alike (Lookup.ofDeclaration schema.target e) session.catalog other.catalog := by
  intro lookup hlookup
  have htag : lookup.tag ∈ Lookup.tags :=
    hlookup.tag_mem fun _ hown => Lookup.tag_mem_of_mem_ofDeclaration hown
  cases hfound : session.catalog.declaration? lookup.tag lookup.key with
  | none =>
    cases hfound' : other.catalog.declaration? lookup.tag lookup.key with
    | none => rfl
    | some found' =>
      obtain ⟨found, hsome, -⟩ :=
        Reader.exists_declaration? hwork h h' htried horderly htag hfound'
      rw [hfound] at hsome
      cases hsome
  | some found =>
    -- It is declared in a document that is reached, and so has come in there, too.
    obtain ⟨hdeclaring, hchild, hname⟩ := Catalog.offers_of_declaration? hfound
    obtain ⟨declaring, hdeclaring, hin⟩ := mem_schemas_catalog_iff.1 hdeclaring
    obtain ⟨last, hreaches, offering, hoffering, hoffers⟩ := horderly.lookups document hmem schema
      hschema e he lookup hlookup ⟨declaring, hdeclaring, found.1, hin, found.2, hchild, hname⟩
    obtain ⟨hlast, last', hlast', hsame'⟩ :=
      h.exists_of_reaches hwork h' hmem hmem' hsame hreaches
    have hcontents := h'.contents_eq hwork h htried horderly.includes hlast' hlast hsame'.symm
    obtain ⟨offering', hoffering', heq⟩ := exists_content_eq hcontents.symm hoffering
    obtain ⟨found', hfound'⟩ := Catalog.exists_declaration?_of_offers
      (mem_schemas_catalog_iff.2 ⟨last', hlast', hoffering'⟩) (Schema.Offers.of_content_eq heq hoffers)
    obtain ⟨_, hsome, heq⟩ :=
      Reader.exists_declaration? hwork h h' htried horderly htag hfound'
    obtain rfl := Option.some.inj (hfound.symm.trans hsome)
    rw [hfound', Option.map_some, Option.map_some, heq]

end

/-! ## Descriptors -/

/-- A document declares a type under a name, seen from all documents of a session. -/
def Describes (config : Config) (tree : File.Tree) (session : Session) (document : Document)
    (key : ExpandedName) (type : TypeDescriptor) : Prop :=
  ∃ schema ∈ session.schemasOf document, ∃ e ∈ schema.declarations,
    (Declaration.describeAny config session.catalog schema e).value.map
      (TypeDescriptor.located tree) = some type ∧ type.key = key

/-- A schema says that it stands where its document was read. -/
theorem Reader.placeOf_location (h : Reader config tree asked session)
    (hmem : document ∈ session.library.documents) {schema : Schema}
    (hschema : schema ∈ session.schemasOf document) :
    Location.placeOf tree schema.location = document.location.place tree := by
  obtain ⟨element, -, rfl⟩ := List.mem_map.1 hschema
  exact Location.placeOf_display (h.root? hmem) (h.isProper hmem)

section

variable (hwork : tree.WorksInside) (h : Reader config tree asked session)
variable (h' : Reader config tree asked other)
variable (htried : ∀ location ∈ asked, location.identity tree ∈ session.library.visited)
variable (horderly : session.Orderly tree)
variable (hmem : document ∈ session.library.documents)
variable (hmem' : document' ∈ other.library.documents) (hsame : document.SameFile tree document')

include hwork h h' htried horderly hmem hmem' hsame

/-- A declaration has the same descriptor in both sessions, but for the spelling of its file. -/
theorem Reader.describeAny_eq {schema schema' : Schema} {e : Xml.Element}
    (hschema : schema ∈ session.schemasOf document)
    (hschema' : schema' ∈ other.schemasOf document') (hcontent : schema.content = schema'.content)
    (he : e ∈ schema.declarations) :
    (Declaration.describeAny config other.catalog schema' e).value.map
        (TypeDescriptor.located tree)
      = (Declaration.describeAny config session.catalog schema e).value.map
        (TypeDescriptor.located tree) := by
  have halike := Reader.alike hwork h h' htried horderly hmem hmem' hsame hschema he
  have hmoved : (Declaration.describeAny config other.catalog schema' e).value
      = (Declaration.describeAny config session.catalog schema e).value.map
        (TypeDescriptor.movedTo schema'.location) :=
    halike.describeAny_eq (Prod.mk.inj hcontent).2.symm fun _ hown => Catalog.LooksUp.own hown
  rw [hmoved, Option.map_map]
  refine Option.map_congr fun type htype => ?_
  have hlocation := Declaration.location_describeAny htype
  have hplace : Location.placeOf tree schema'.location
      = Location.placeOf tree schema.location := by
    rw [h'.placeOf_location hmem' hschema', h.placeOf_location hmem hschema]
    exact hsame.symm
  show type.movedTo (Location.placeOf tree schema'.location) = type.located tree
  rw [hplace, ← hlocation]
  rfl

/-- **A document declares the same types in both sessions.** -/
theorem Reader.describes_iff {type : TypeDescriptor} :
    Describes config tree other document' key type ↔
      Describes config tree session document key type := by
  have hcontents := h'.contents_eq hwork h htried horderly.includes hmem' hmem hsame.symm
  constructor
  · rintro ⟨schema', hschema', e, he, htype⟩
    obtain ⟨schema, hschema, hcontent⟩ := exists_content_eq hcontents hschema'
    have he' : e ∈ schema.declarations := by
      rwa [Schema.declarations, ← (Prod.mk.inj hcontent).1]
    rw [Reader.describeAny_eq hwork h h' htried horderly hmem hmem' hsame hschema hschema'
      hcontent.symm he'] at htype
    exact ⟨schema, hschema, e, he', htype⟩
  · rintro ⟨schema, hschema, e, he, htype⟩
    obtain ⟨schema', hschema', hcontent⟩ := exists_content_eq hcontents.symm hschema
    have he' : e ∈ schema'.declarations := by
      rwa [Schema.declarations, ← (Prod.mk.inj hcontent).1]
    rw [← Reader.describeAny_eq hwork h h' htried horderly hmem hmem' hsame hschema hschema'
      hcontent he] at htype
    exact ⟨schema', hschema', e, he', htype⟩

end

end Session

end WsdlTypes
