import Mathlib.Data.List.Chain
import WsdlTypes.Proofs.Session.Schemas
import WsdlTypes.Proofs.Traversal.Origin
/-!
# Chains of includes

A schema that declares no namespace takes over the one that the including schema hands on.
What this hands on is the namespace that it declares itself, and nothing where it declares
none, be there one that it took over. So along a chain of includes from a schema with a
namespace into schemas without one, the first of these shares the namespace and the ones
behind it have none (`include_chain_namespaces`).
-/

namespace WsdlTypes

/-- What all schemas in a document declare as their namespace. -/
def DeclaresTarget (root : Xml.Element) (target : Option String) : Prop :=
  ∀ schema ∈ root.descendants schemaUri "schema",
    schema.attribute? "targetNamespace" = target

instance (root : Xml.Element) (target : Option String) : Decidable (DeclaresTarget root target) :=
  inferInstanceAs (Decidable (∀ schema ∈ root.descendants schemaUri "schema",
    schema.attribute? "targetNamespace" = target))

/-- A schema in a document has a complex or simple type of a name at its top. -/
def NamesType (root : Xml.Element) (name : String) : Prop :=
  ∃ schema ∈ root.descendants schemaUri "schema", ∃ tag ∈ ["complexType", "simpleType"],
    ∃ e ∈ schema.children schemaUri tag, e.attribute? "name" = some name

/-- A link of a chain of includes: the document of one file includes another file, no other
reference leads there, and what is read there declares no namespace. -/
structure IncludeLink (tree : File.Tree) (library : Library) (outer inner : String) : Prop where
  included : ∀ document ∈ library.documents, document.location.identity tree = outer →
    ∃ lead ∈ document.leads, lead.location.identity tree = inner
  only : ∀ lead ∈ library.leads, lead.location.identity tree = inner →
    lead.document.location.identity tree = outer ∧ lead.reference.includedInto.isSome
  unqualified : ∀ lead ∈ library.leads, lead.location.identity tree = inner →
    ∃ root ∈ lead.location.root? library.doctypes tree, DeclaresTarget root none

instance (tree : File.Tree) (library : Library) (outer inner : String) :
    Decidable (IncludeLink tree library outer inner) :=
  decidable_of_iff
    ((∀ document ∈ library.documents, document.location.identity tree = outer →
        ∃ lead ∈ document.leads, lead.location.identity tree = inner) ∧
      (∀ lead ∈ library.leads, lead.location.identity tree = inner →
        lead.document.location.identity tree = outer ∧ lead.reference.includedInto.isSome) ∧
      ∀ lead ∈ library.leads, lead.location.identity tree = inner →
        ∃ root ∈ lead.location.root? library.doctypes tree, DeclaresTarget root none)
    ⟨fun ⟨hincluded, honly, hunqualified⟩ => ⟨hincluded, honly, hunqualified⟩,
      fun h => ⟨h.included, h.only, h.unqualified⟩⟩

/-- An include hands on what the schemas of its document declare. -/
theorem DeclaresTarget.includedInto {root : Xml.Element} {target : Option String}
    (h : DeclaresTarget root target) {reference : DocumentReference}
    (hmem : reference ∈ DocumentReference.ofRoot root) (hinto : reference.includedInto.isSome) :
    reference.includedInto = some (target.getD "") := by
  rcases List.mem_append.1 hmem with hmem | hmem
  · split at hmem
    · obtain ⟨e, -, he⟩ := List.mem_filterMap.1 hmem
      obtain ⟨location, -, rfl⟩ := Option.map_eq_some_iff.1 he
      cases hinto
    · cases hmem
  · obtain ⟨schema, hschema, hmem⟩ := List.mem_flatMap.1 hmem
    obtain ⟨e, -, he⟩ := List.mem_filterMap.1 hmem
    unfold DocumentReference.ofSchemaChild? at he
    split at he
    · obtain ⟨location, -, rfl⟩ := Option.map_eq_some_iff.1 he
      rw [Xml.Element.attributeD, h schema hschema]
    · split at he
      · obtain ⟨location, -, rfl⟩ := Option.map_eq_some_iff.1 he
        cases hinto
      · cases he

/-- In a chain every element but the first has a link to it. -/
theorem exists_link_of_mem {α : Type} {R : α → α → Prop} {first : α} {rest : List α}
    (h : (first :: rest).IsChain R) {x : α} (hx : x ∈ rest) : ∃ y ∈ first :: rest, R y x := by
  induction rest generalizing first with
  | nil => cases hx
  | cons next rest ih =>
    obtain ⟨hlink, hrest⟩ := List.isChain_cons_cons.1 h
    rcases List.mem_cons.1 hx with rfl | hx
    · exact ⟨first, List.mem_cons_self, hlink⟩
    · obtain ⟨y, hy, hlink⟩ := ih hrest hx
      exact ⟨y, List.mem_cons_of_mem _ hy, hlink⟩

namespace Traversal

variable {tree : File.Tree} {root : Document} {t : Traversal} {outer inner : String}

/-- A link of a chain brings its inner file in. -/
theorem Origins.exists_of_link (h : Origins tree root t) (hend : t.stack = [])
    (hlink : IncludeLink tree t.library outer inner)
    (houter : ∃ d ∈ t.library.documents, d.location.identity tree = outer) :
    ∃ d ∈ t.library.documents, d.location.identity tree = inner := by
  obtain ⟨document, hmem, hidentity⟩ := houter
  obtain ⟨lead, hlead, hinner⟩ := hlink.included document hmem hidentity
  have hsame := (Document.mem_leads.1 hlead).1
  have hlead' : lead ∈ t.library.leads := Library.mem_leads.2 ⟨hsame ▸ hmem, hsame ▸ hlead⟩
  rw [← hinner]
  refine h.exists_of_lead hend hlead' fun other hother hidentity' hnone => ?_
  obtain ⟨found, hfound, -⟩ := hlink.unqualified other hother (hidentity'.trans hinner)
  rw [hnone] at hfound
  cases hfound

/-- The document of the inner file of a link declares no namespace, and inherits what the
including reference hands on. -/
theorem Origins.of_link (h : Origins tree root t)
    (hlink : IncludeLink tree t.library outer inner) (hne : root.location.identity tree ≠ inner)
    {d : Document} (hd : d ∈ t.library.documents) (hidentity : d.location.identity tree = inner) :
    DeclaresTarget d.root none ∧
      ∃ lead ∈ t.library.leads, lead.document.location.identity tree = outer ∧
        lead.reference.includedInto.isSome ∧
        t.inherited.lookup d.id = lead.reference.includedInto := by
  have hid : d.id ≠ root.id := fun heq => by
    have hsame : d = root := List.inj_on_of_nodup_map h.numbered.nodup_ids hd h.rooted heq
    exact hne (hsame ▸ hidentity)
  obtain ⟨lead, hlead, hlocation, hlookup⟩ := h.came d hd hid
  have hinner : lead.location.identity tree = inner := by rw [hlocation, hidentity]
  obtain ⟨houter, hinto⟩ := hlink.only lead hlead hinner
  obtain ⟨found, hfound, hnone⟩ := hlink.unqualified lead hlead hinner
  rw [hlocation, h.sourced.read d hd, Option.mem_some_iff] at hfound
  exact ⟨hfound ▸ hnone, lead, hlead, houter, hinto, hlookup⟩

/-- **What the documents of a chain inherit.** They all come in; the first one inherits what
the document declares that the chain starts from, and the ones behind it inherit nothing but
the empty namespace that their includers declare. -/
theorem Origins.of_chain (h : Origins tree root t) (hend : t.stack = []) {target : String}
    (htarget : DeclaresTarget root.root (some target)) {first : String} {rest : List String}
    (hchain : (root.location.identity tree :: first :: rest).IsChain
      (IncludeLink tree t.library))
    (hnew : root.location.identity tree ∉ first :: rest) :
    (∀ file ∈ first :: rest, ∃ d ∈ t.library.documents, d.location.identity tree = file) ∧
      (∀ d ∈ t.library.documents, d.location.identity tree = first →
        DeclaresTarget d.root none ∧ t.inherited.lookup d.id = some target) ∧
      ∀ d ∈ t.library.documents, d.location.identity tree ∈ rest →
        DeclaresTarget d.root none ∧ t.inherited.lookup d.id = some "" := by
  obtain ⟨hfirst, hrest⟩ := List.isChain_cons_cons.1 hchain
  have hnone : ∀ d ∈ t.library.documents, d.location.identity tree ∈ first :: rest →
      DeclaresTarget d.root none := by
    intro d hd hmem
    obtain ⟨outer, -, hlink⟩ := exists_link_of_mem hchain hmem
    exact (h.of_link hlink (fun heq => hnew (heq ▸ hmem)) hd rfl).1
  refine ⟨?_, fun d hd hidentity => ?_, fun d hd hmem => ?_⟩
  · exact List.IsChain.cons_induction _ _ hchain
      (fun outer inner hlink houter => h.exists_of_link hend hlink houter)
      ⟨root, h.rooted, rfl⟩
  · obtain ⟨hdeclares, lead, hlead, houter, hinto, hlookup⟩ := h.of_link hfirst
      (fun heq => hnew (heq ▸ List.mem_cons_self)) hd hidentity
    obtain ⟨hincluder, hlead⟩ := Library.mem_leads.1 hlead
    -- The including document is the one that the chain starts from.
    have hsame : lead.document = root :=
      h.sourced.eq_of_identity_eq hincluder h.rooted houter
    rw [hsame] at hlead
    refine ⟨hdeclares, ?_⟩
    rw [hlookup, htarget.includedInto (Document.mem_leads.1 hlead).2.1 hinto, Option.getD_some]
  · obtain ⟨outer, houter, hlink⟩ := exists_link_of_mem hrest hmem
    obtain ⟨hdeclares, lead, hlead, hidentity, hinto, hlookup⟩ := h.of_link hlink
      (fun heq => hnew (heq ▸ List.mem_cons_of_mem _ hmem)) hd rfl
    obtain ⟨hincluder, hlead⟩ := Library.mem_leads.1 hlead
    -- The including document is one of the chain and declares no namespace.
    have hincludes := hnone lead.document hincluder (hidentity ▸ houter)
    refine ⟨hdeclares, ?_⟩
    rw [hlookup, hincludes.includedInto (Document.mem_leads.1 hlead).2.1 hinto, Option.getD_none]

end Traversal

namespace Session

variable {config : Config} {c : Call}

/-- A schema in a document without a namespace has the one that the document inherits. -/
theorem target_of_mem_schemasOf {session : Session} {document : Document} {target : String}
    (hnone : DeclaresTarget document.root none)
    (hinherits : session.inherited.lookup document.id = some target) {schema : Schema}
    (hmem : schema ∈ session.schemasOf document) : schema.target = target := by
  obtain ⟨element, helement, rfl⟩ := List.mem_map.1 hmem
  simp only [hnone element helement, hinherits, Option.getD_none, Option.getD_some]

/-- A key of the first call is one of the declarations of the documents that came in. -/
theorem mem_keys_first_call {key : ExpandedName} :
    key ∈ ((Session.new config).call c).types.keys ↔
      ∃ document ∈ ((Session.new config).call c).library.documents,
        ∃ schema ∈ ((Session.new config).call c).schemasOf document,
          ∃ e ∈ schema.declarations,
            Walk.Declares config ((Session.new config).call c).catalog (schema, e) key := by
  obtain ⟨fresh, hdocuments, hkeys⟩ := mem_keys_call_iff (c := c) (numbered_new config)
  have hall : ((Session.new config).call c).library.documents = fresh := hdocuments
  rw [hall, hkeys]
  exact or_iff_right List.not_mem_nil

/-- A named type in a document without a namespace has the one that the document inherits. -/
theorem mem_keys_of_namesType {document : Document}
    (hmem : document ∈ ((Session.new config).call c).library.documents)
    (hnone : DeclaresTarget document.root none) {target : String}
    (hinherits : ((Session.new config).call c).inherited.lookup document.id = some target)
    {name : String} (hname : NamesType document.root name) :
    ⟨target, name⟩ ∈ ((Session.new config).call c).types.keys := by
  obtain ⟨element, helement, tag, htag, e, he, hname⟩ := hname
  have htags : tag = "complexType" ∨ tag = "simpleType" := by simpa using htag
  have hschema : ∃ schema ∈ ((Session.new config).call c).schemasOf document,
      schema.element = element :=
    ⟨_, List.mem_map.2 ⟨element, helement, rfl⟩, rfl⟩
  obtain ⟨schema, hschema, rfl⟩ := hschema
  rw [mem_keys_first_call]
  refine ⟨document, hmem, schema, hschema, e, ?_, ?_⟩
  · rw [Schema.declarations, List.mem_append, List.mem_append]
    rcases htags with rfl | rfl
    · exact Or.inr (Or.inl he)
    · exact Or.inr (Or.inr he)
  · have htag' : tag ≠ "element" := by
      rcases htags with rfl | rfl <;> decide
    rw [← target_of_mem_schemasOf hnone hinherits hschema]
    exact Declaration.exists_describeAny_of_type htag' he hname

/-- **The namespaces along a chain of includes.** Let a new session be asked for a document
whose schemas declare a namespace, and let a chain of includes lead from it through documents
that declare none and that nothing else leads to. However long the chain is, all its
documents come in. The named types of the first included document have the namespace; those
of all that come behind it have none, and such a name is a type of the namespace only where
this is empty, or where a document that does not come behind declares one there. -/
theorem include_chain_namespaces (config : Config) (tree : File.Tree) (source : String)
    {location : Location} (hparse : Location.parse source = .ok location)
    {root : Xml.Element} (hroot : location.root? config.doctypes tree = some root)
    {target : String} (htarget : DeclaresTarget root (some target))
    {first : String} {rest : List String}
    (hchain : (location.identity tree :: first :: rest).IsChain
      (IncludeLink tree ((Session.new config).call ⟨tree, source⟩).library))
    (hnew : location.identity tree ∉ first :: rest) :
    let session := (Session.new config).call ⟨tree, source⟩
    (∀ file ∈ first :: rest,
        ∃ d ∈ session.library.documents, d.location.identity tree = file) ∧
      (∀ d ∈ session.library.documents, d.location.identity tree = first →
        ∀ name, NamesType d.root name → ⟨target, name⟩ ∈ session.types.keys) ∧
      ∀ d ∈ session.library.documents, d.location.identity tree ∈ rest →
        ∀ name, NamesType d.root name → ⟨"", name⟩ ∈ session.types.keys ∧
          (⟨target, name⟩ ∈ session.types.keys ↔
            target = "" ∨
              ∃ other ∈ session.library.documents, other.location.identity tree ∉ rest ∧
                ∃ schema ∈ session.schemasOf other, ∃ e ∈ schema.declarations,
                  Walk.Declares config session.catalog (schema, e) ⟨target, name⟩) := by
  intro session
  have hfresh : location.identity tree ∉ (Session.new config).library.visited := List.not_mem_nil
  obtain ⟨library, document, hload, rfl, hlocation⟩ :=
    Library.exists_load_eq_loaded hfresh hroot
  have horigins : Traversal.Origins tree document
      ((Session.new config).traversal tree library document) :=
    (Traversal.Origins.ofRoot hload).run
  have hsession : session
      = ((Session.new config).arrived ((Session.new config).traversal tree library document)).takeIn
        ((Session.new config).traversal tree library document).order :=
    call_eq_of_loaded (c := ⟨tree, source⟩) hparse hload
  have hlibrary :
      ((Session.new config).traversal tree library document).library = session.library := by
    rw [hsession, library_takeIn, library_arrived]
  have hinherited :
      ((Session.new config).traversal tree library document).inherited = session.inherited := by
    rw [hsession, inherited_takeIn, inherited_arrived]
  rw [← hlocation, ← hlibrary] at hchain
  rw [← hlocation] at hnew
  have hinherits := horigins.of_chain (Traversal.stack_run ..) htarget hchain hnew
  rw [hlibrary, hinherited] at hinherits
  obtain ⟨hcame, hfirst, hbehind⟩ := hinherits
  refine ⟨hcame, fun d hd hidentity name hname => ?_, fun d hd hmem name hname => ?_⟩
  · obtain ⟨hnone, hlookup⟩ := hfirst d hd hidentity
    exact mem_keys_of_namesType (c := ⟨tree, source⟩) hd hnone hlookup hname
  · obtain ⟨hnone, hlookup⟩ := hbehind d hd hmem
    have hown : ⟨"", name⟩ ∈ session.types.keys :=
      mem_keys_of_namesType (c := ⟨tree, source⟩) hd hnone hlookup hname
    refine ⟨hown, ?_, ?_⟩
    · intro hkey
      obtain ⟨other, hother, schema, hschema, e, he, hdeclares⟩ :=
        (mem_keys_first_call (c := ⟨tree, source⟩)).1 hkey
      by_cases hbehind' : other.location.identity tree ∈ rest
      · -- A declaration behind in the chain is in no namespace, so this is it.
        obtain ⟨hnone, hlookup⟩ := hbehind other hother hbehind'
        obtain ⟨type, htype, htypekey⟩ := hdeclares
        obtain ⟨_, -, hkey', -⟩ := Declaration.key_of_describeAny htype
        rw [htypekey, target_of_mem_schemasOf hnone hlookup hschema] at hkey'
        exact Or.inl (congrArg ExpandedName.uri hkey')
      · exact Or.inr ⟨other, hother, hbehind', schema, hschema, e, he, hdeclares⟩
    · rintro (hempty | ⟨other, hother, -, schema, hschema, e, he, hdeclares⟩)
      · rw [hempty]
        exact hown
      · exact (mem_keys_first_call (c := ⟨tree, source⟩)).2
          ⟨other, hother, schema, hschema, e, he, hdeclares⟩

/-- A schema with the namespace `n` that includes one without, which includes another one. -/
def nestedIncludes : File.Tree :=
  .ofTexts
    [("m", Schema.text " targetNamespace='n'" "<s:include schemaLocation='a'/>"),
      ("a", Schema.text "" "<s:include schemaLocation='b'/>"),
      ("b", Schema.text "" "<s:simpleType name='T'/>")]

/-- These are a chain of includes, and so they all come in. -/
theorem nestedIncludes_came :
    ["/m", "/a", "/b"].IsChain (IncludeLink nestedIncludes
        ((Session.new {}).call ⟨nestedIncludes, "m"⟩).library) ∧
      ∀ file ∈ ["/a", "/b"], ∃ d ∈ ((Session.new {}).call ⟨nestedIncludes, "m"⟩).library.documents,
        d.location.identity nestedIncludes = file := by
  have hchain : ["/m", "/a", "/b"].IsChain (IncludeLink nestedIncludes
      ((Session.new {}).call ⟨nestedIncludes, "m"⟩).library) := by
    decide +kernel
  have hroot : ∃ root ∈ (Location.file "m").root? false nestedIncludes,
      DeclaresTarget root (some "n") := by
    decide +kernel
  obtain ⟨root, hroot, htarget⟩ := hroot
  have hparse : Location.parse "m" = .ok (.file "m") := rfl
  have hidentity : (Location.file "m").identity nestedIncludes = "/m" := by decide +kernel
  have hlinks : [(Location.file "m").identity nestedIncludes, "/a", "/b"].IsChain
      (IncludeLink nestedIncludes ((Session.new {}).call ⟨nestedIncludes, "m"⟩).library) := by
    rw [hidentity]
    exact hchain
  have hnew : (Location.file "m").identity nestedIncludes ∉ ["/a", "/b"] := by
    rw [hidentity]
    decide
  obtain ⟨hcame, -⟩ :=
    include_chain_namespaces {} nestedIncludes "m" hparse hroot htarget hlinks hnew
  exact ⟨hchain, hcame⟩

/-- **The second included schema loses the namespace.** Its type is in none, and nothing is
reported. -/
theorem second_include_loses_namespace :
    let session := (Session.new {}).call ⟨nestedIncludes, "m"⟩
    session.types.keys = [⟨"", "T"⟩] ∧ session.hasErrors = false := by
  decide +kernel

end Session

end WsdlTypes
