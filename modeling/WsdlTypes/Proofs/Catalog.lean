import Mathlib.Data.List.Basic
import WsdlTypes.Catalog
/-!
# What a document adds to the catalog

Every schema and every service description of a catalog carries the number of its document.
As no two documents have one number, asking for the numbers of some documents, in any order,
gives what these documents consist of and nothing else (`definitionsOf_perm`,
`schemasOf_perm`).
-/

namespace WsdlTypes

theorem Schema.document_of_mem_ofDocument {document : Document} {inherited : Option String}
    {schema : Schema} (h : schema ∈ ofDocument document inherited) :
    schema.document = document.id := by
  obtain ⟨element, -, rfl⟩ := List.mem_map.1 h
  rfl

theorem Definitions.document_of_mem_ofDocument {document : Document} {definitions : Definitions}
    (h : definitions ∈ ofDocument document) : definitions.document = document.id := by
  unfold ofDocument at h
  split at h
  · rw [List.mem_singleton.1 h]
  · cases h

namespace Catalog

variable {documents fresh : List Document} {order : List Nat}

section

variable {α : Type} {parts : Document → List α} {number : α → Nat}

/-- The parts that carry the number of a document are those of this document. -/
theorem filter_flatMap_parts
    (hnumber : ∀ document, ∀ a ∈ parts document, number a = document.id)
    (hnodup : (documents.map Document.id).Nodup) {document : Document}
    (hmem : document ∈ documents) :
    (documents.flatMap parts).filter (fun a => number a = document.id) = parts document := by
  induction documents with
  | nil => cases hmem
  | cons first rest ih =>
    rw [List.map_cons, List.nodup_cons] at hnodup
    rw [List.flatMap_cons, List.filter_append]
    rcases List.mem_cons.1 hmem with rfl | hrest
    · have hown : (parts document).filter (fun a => number a = document.id) = parts document :=
        List.filter_eq_self.2 fun a ha => by simpa using hnumber document a ha
      have hother : (rest.flatMap parts).filter (fun a => number a = document.id) = [] := by
        rw [List.filter_eq_nil_iff]
        intro a ha
        obtain ⟨other, hother, ha⟩ := List.mem_flatMap.1 ha
        rw [decide_eq_true_eq, hnumber other a ha]
        exact fun heq => hnodup.1 (heq ▸ List.mem_map_of_mem hother)
      rw [hown, hother, List.append_nil]
    · have hfirst : (parts first).filter (fun a => number a = document.id) = [] := by
        rw [List.filter_eq_nil_iff]
        intro a ha
        rw [decide_eq_true_eq, hnumber first a ha]
        exact fun heq => hnodup.1 (heq ▸ List.mem_map_of_mem hrest)
      rw [hfirst, List.nil_append, ih hnodup.2 hrest]

/-- And asking for the numbers of some documents gives the parts of these. -/
theorem flatMap_filter_parts_perm
    (hnumber : ∀ document, ∀ a ∈ parts document, number a = document.id)
    (hnodup : (documents.map Document.id).Nodup) (hfresh : fresh ⊆ documents)
    (hperm : order.Perm (fresh.map Document.id)) :
    (order.flatMap fun id => (documents.flatMap parts).filter fun a => number a = id).Perm
      (fresh.flatMap parts) := by
  refine (hperm.flatMap_right _).trans (List.Perm.of_eq ?_)
  rw [List.flatMap_map]
  refine List.flatMap_congr fun document hmem => ?_
  exact filter_flatMap_parts hnumber hnodup (hfresh hmem)

end

variable {inherited : Nat → Option String}

/-- **The service descriptions of some documents** are what these are. -/
theorem definitionsOf_perm (hnodup : (documents.map Document.id).Nodup)
    (hfresh : fresh ⊆ documents) (hperm : order.Perm (fresh.map Document.id)) :
    ((ofDocuments documents inherited).definitionsOf order).Perm
      (fresh.flatMap Definitions.ofDocument) :=
  flatMap_filter_parts_perm (fun _ _ h => Definitions.document_of_mem_ofDocument h) hnodup
    hfresh hperm

/-- **And their schemas** are those in these. -/
theorem schemasOf_perm (hnodup : (documents.map Document.id).Nodup)
    (hfresh : fresh ⊆ documents) (hperm : order.Perm (fresh.map Document.id)) :
    ((ofDocuments documents inherited).schemasOf order).Perm
      (fresh.flatMap fun document => Schema.ofDocument document (inherited document.id)) :=
  flatMap_filter_parts_perm (fun _ _ h => Schema.document_of_mem_ofDocument h) hnodup
    hfresh hperm

end Catalog

end WsdlTypes
