import WsdlTypes.Proofs.Catalog
import WsdlTypes.Proofs.Session.Order
import WsdlTypes.Proofs.Walk.Types
/-!
# The schemas that a call walks

A call walks the schemas of the documents that it brought in, those of each with the namespace
that the document takes over (`schemasOf_order`). So the names that it adds to the types are
those that the declarations of these schemas have (`mem_keys_call_iff`).
-/

namespace WsdlTypes.Session

variable {session : Session} {c : Call}

/-- The schemas whose declarations a document of a session adds to the types. -/
def schemasOf (session : Session) (document : Document) : List Schema :=
  Schema.ofDocument document (session.inherited.lookup document.id)

theorem mem_schemas_catalog_iff {schema : Schema} :
    schema ∈ session.catalog.schemas ↔
      ∃ document ∈ session.library.documents, schema ∈ session.schemasOf document :=
  List.mem_flatMap

/-- **A call walks the schemas of what it brought in**, and no others. -/
theorem schemasOf_order (hnumbered : session.library.Numbered) :
    ∃ fresh, (session.call c).library.documents = session.library.documents ++ fresh ∧
      ((session.call c).catalog.schemasOf (session.order c)).Perm
        (fresh.flatMap (session.call c).schemasOf) := by
  obtain ⟨hnext, fresh, hdocuments, hperm⟩ := call_order (c := c) hnumbered
  refine ⟨fresh, hdocuments, ?_⟩
  refine Catalog.schemasOf_perm hnext.nodup_ids ?_ hperm
  rw [hdocuments]
  exact List.subset_append_right _ _

/-- What is walked are the declarations of the schemas that are walked, in whatever order. -/
theorem exists_declarationsOf_iff {order : List Nat} {documents : List Document}
    {P : Schema × Xml.Element → Prop}
    (hperm : (session.catalog.schemasOf order).Perm (documents.flatMap session.schemasOf)) :
    (∃ d ∈ session.catalog.declarationsOf order, P d) ↔
      ∃ document ∈ documents, ∃ schema ∈ session.schemasOf document,
        ∃ e ∈ schema.declarations, P (schema, e) := by
  constructor
  · rintro ⟨d, hd, h⟩
    obtain ⟨schema, hschema, hd⟩ := List.mem_flatMap.1 hd
    obtain ⟨e, he, rfl⟩ := List.mem_map.1 hd
    obtain ⟨document, hdocument, hmem⟩ := List.mem_flatMap.1 (hperm.mem_iff.1 hschema)
    exact ⟨document, hdocument, schema, hmem, e, he, h⟩
  · rintro ⟨document, hdocument, schema, hmem, e, he, h⟩
    have hschema := hperm.mem_iff.2 (List.mem_flatMap.2 ⟨document, hdocument, hmem⟩)
    exact ⟨(schema, e),
      List.mem_flatMap.2 ⟨schema, hschema, List.mem_map.2 ⟨e, he, rfl⟩⟩, h⟩

/-- A declaration that is walked stands in a schema of a document. -/
theorem exists_of_mem_declarationsOf {order : List Nat} {d : Schema × Xml.Element}
    (h : d ∈ session.catalog.declarationsOf order) :
    ∃ document ∈ session.library.documents,
      d.1 ∈ session.schemasOf document ∧ d.2 ∈ d.1.declarations := by
  obtain ⟨schema, hschema, hd⟩ := List.mem_flatMap.1 h
  obtain ⟨e, he, rfl⟩ := List.mem_map.1 hd
  obtain ⟨id, -, hschema⟩ := List.mem_flatMap.1 hschema
  obtain ⟨document, hdocument, hmem⟩ := List.mem_flatMap.1 (List.mem_filter.1 hschema).1
  exact ⟨document, hdocument, hmem, he⟩

/-- What a call comes to, seen from the types alone: a walk over the order of the call. -/
theorem types_call : (session.call c).types
    = (Walk.documents session.config (session.call c).catalog session.types
        (session.order c)).value.types := by
  have houtcome := call_outcome session c
  generalize session.call c = next at houtcome
  cases houtcome with
  | quiet horder =>
    rw [horder]
    rfl
  | absorbed hparse hload =>
    rw [order_of_loaded hparse hload, types_takeIn, catalog_takeIn]
    rfl

/-- And seen from the operations: those of the documents that came in come behind the others. -/
theorem operations_call : (session.call c).operations = session.operations
    ++ (Service.operationsOf session.config.naming (session.call c).catalog
      (session.call c).types (session.order c)).value := by
  have houtcome := call_outcome session c
  generalize session.call c = next at houtcome
  cases houtcome with
  | quiet horder =>
    rw [horder]
    exact (List.append_nil _).symm
  | absorbed hparse hload =>
    rw [order_of_loaded hparse hload, operations_takeIn, types_takeIn, catalog_takeIn]
    rfl

/-- **The names after a call** are those that there were, and those of the declarations of the
documents that came in. -/
theorem mem_keys_call_iff (hnumbered : session.library.Numbered) :
    ∃ fresh, (session.call c).library.documents = session.library.documents ++ fresh ∧
      ∀ key, key ∈ (session.call c).types.keys ↔ key ∈ session.types.keys ∨
        ∃ document ∈ fresh, ∃ schema ∈ (session.call c).schemasOf document,
          ∃ e ∈ schema.declarations,
            Walk.Declares session.config (session.call c).catalog (schema, e) key := by
  obtain ⟨fresh, hdocuments, hperm⟩ := schemasOf_order (c := c) hnumbered
  refine ⟨fresh, hdocuments, fun key => ?_⟩
  rw [types_call, Walk.mem_keys_documents, exists_declarationsOf_iff hperm]

end WsdlTypes.Session
