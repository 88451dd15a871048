import WsdlTypes.Proofs.Session.Schemas
import WsdlTypes.Proofs.Traversal.Dependencies
/-!
# Declarations behind what they rely on

A call walks the documents that it brought in, in the order in which its traversal left them. So a
document comes behind one that it refers to, and its declarations are entered behind all of the
other's (`dependencies_first`), whatever else the documents refer to: the only exception are
documents that lead to each other.
-/

namespace WsdlTypes

namespace Catalog

variable {catalog : Catalog} {order order' : List Nat} {d e : Document}

theorem declarationsOf_append : catalog.declarationsOf (order ++ order')
    = catalog.declarationsOf order ++ catalog.declarationsOf order' := by
  rw [declarationsOf, schemasOf, List.flatMap_append, List.flatMap_append]
  rfl

/-- What is walked for some documents stands in one of them. -/
theorem document_mem_of_mem_declarationsOf {declaration : Schema × Xml.Element}
    (h : declaration ∈ catalog.declarationsOf order) : declaration.1.document ∈ order := by
  obtain ⟨schema, hschema, hdeclaration⟩ := List.mem_flatMap.1 h
  obtain ⟨element, -, rfl⟩ := List.mem_map.1 hdeclaration
  obtain ⟨id, hid, hmem⟩ := List.mem_flatMap.1 hschema
  have hdocument : schema.document = id := by simpa using (List.mem_filter.1 hmem).2
  exact hdocument ▸ hid

/-- Where one document is left before another one, its declarations are walked before those of the
other one. -/
theorem exists_declarationsOf_eq_append (hnodup : order.Nodup)
    (h : Traversal.Before order e d) :
    ∃ front back, catalog.declarationsOf order = front ++ back ∧
      (∀ declaration ∈ front, declaration.1.document ≠ d.id) ∧
        ∀ declaration ∈ back, declaration.1.document ≠ e.id := by
  obtain ⟨front, back, rfl, hfront⟩ := h
  obtain ⟨-, -, hapart⟩ := List.nodup_append.1 hnodup
  refine ⟨_, _, declarationsOf_append, fun declaration hmem heq => ?_,
    fun declaration hmem heq => ?_⟩
  · have hid := document_mem_of_mem_declarationsOf hmem
    exact hapart _ hid _ List.mem_cons_self heq
  · have hid := document_mem_of_mem_declarationsOf hmem
    exact hapart _ hfront _ hid heq.symm

end Catalog

namespace Session

variable {session : Session} {c : Call} {d e : Document}

/-- No document is walked twice by a call. -/
theorem nodup_order (hnumbered : session.library.Numbered) : (session.order c).Nodup := by
  obtain ⟨hnext, fresh, hdocuments, hperm⟩ := call_order (c := c) hnumbered
  have hnodup := hnext.nodup_ids
  rw [hdocuments, List.map_append] at hnodup
  exact hperm.nodup_iff.2 (List.nodup_append.1 hnodup).2.1

/-- What a call brought in is walked. -/
theorem id_mem_order (hnumbered : session.library.Numbered)
    (hd : d ∈ (session.call c).library.documents) (hnew : d ∉ session.library.documents) :
    d.id ∈ session.order c := by
  obtain ⟨-, fresh, hdocuments, hperm⟩ := call_order (c := c) hnumbered
  rw [hdocuments] at hd
  exact hperm.mem_iff.2 (List.mem_map_of_mem ((List.mem_append.1 hd).resolve_left hnew))

/-- The order of a call is that of its traversal. -/
theorem before_order (hnumbered : session.library.Numbered)
    (hd : d ∈ (session.call c).library.documents) (hdnew : d ∉ session.library.documents)
    (henew : e ∉ session.library.documents)
    (hrefers : (session.call c).library.Refers c.tree d e)
    (hnot : ¬(session.call c).library.Reaches c.tree e d) :
    Traversal.Before (session.order c) e d := by
  have hleft := id_mem_order hnumbered hd hdnew
  have houtcome := call_outcome session c
  generalize session.call c = next at houtcome hd hrefers hnot
  cases houtcome with
  | quiet => exact absurd hd hdnew
  | absorbed hparse hload =>
    rw [order_of_loaded hparse hload] at hleft ⊢
    have harrivals := Traversal.Arrivals.ofRoot hnumbered hload session.inherited
    have hplaced := Traversal.placed_run harrivals (.ofRoot hload session.inherited)
    exact hplaced.before d hd hleft e henew hrefers hnot

/-- **What a document refers to is walked before it.** Let a call on a session, after any other
calls and over whatever files, bring two documents in, and let a reference of the one lead to the
file of the other. If no chain of references between the documents of the session leads back from
the other to the one, the other is left first. Then all its declarations are entered into the types
before the first declaration of the document that refers to it. -/
theorem dependencies_first {config : Config} {l : List Call} {c : Call} {session next : Session}
    (hsession : session = (Session.new config).calls l) (hnext : next = session.call c)
    {d e : Document} (hd : d ∈ next.library.documents) (hdnew : d ∉ session.library.documents)
    (henew : e ∉ session.library.documents) (hrefers : next.library.Refers c.tree d e)
    (hnot : ¬next.library.Reaches c.tree e d) :
    Traversal.Before (session.order c) e d ∧
      next.types = (Report.fold (Walk.declare config next.catalog) { types := session.types }
        (next.catalog.declarationsOf (session.order c))).value.types ∧
      ∃ front back, next.catalog.declarationsOf (session.order c) = front ++ back ∧
        (∀ declaration ∈ front, declaration.1.document ≠ d.id) ∧
          ∀ declaration ∈ back, declaration.1.document ≠ e.id := by
  have hnumbered : session.library.Numbered := by
    rw [hsession]
    exact numbered_calls (numbered_new config) l
  have hconfig : session.config = config := by
    rw [hsession]
    exact config_calls _ l
  subst hnext
  have hbefore := before_order hnumbered hd hdnew henew hrefers hnot
  refine ⟨hbefore, ?_, Catalog.exists_declarationsOf_eq_append (nodup_order hnumbered) hbefore⟩
  rw [types_call, Walk.documents_eq_fold, hconfig]

/-- Two schemas that import each other, the second of which imports one that imports nothing. -/
def circleAndLeaf : File.Tree :=
  .ofTexts
    [("a", Schema.text "" "<s:import schemaLocation='b'/>"),
      ("b", Schema.text "" "<s:import schemaLocation='./a'/><s:import schemaLocation='c'/>"),
      ("c", Schema.text "" "<s:simpleType name='T'/>")]

/-- The last one is left before the second. -/
theorem dependencies_first_circleAndLeaf :
    let next := (Session.new {}).call ⟨circleAndLeaf, "a"⟩
    ∃ d ∈ next.library.documents, ∃ e, d.location = .file "b" ∧ e.location = .file "c" ∧
      next.library.Refers circleAndLeaf d e ∧ ¬next.library.Reaches circleAndLeaf e d ∧
        Traversal.Before ((Session.new {}).order ⟨circleAndLeaf, "a"⟩) e d := by
  intro next
  have hdocuments : ∃ d ∈ ((Session.new {}).call ⟨circleAndLeaf, "a"⟩).library.documents,
      ∃ e ∈ ((Session.new {}).call ⟨circleAndLeaf, "a"⟩).library.documents,
        d.location = .file "b" ∧ e.location = .file "c" ∧
          (∃ lead ∈ d.leads,
            lead.location.identity circleAndLeaf = e.location.identity circleAndLeaf) ∧
          e.leads.isEmpty = true := by
    decide +kernel
  obtain ⟨d, hd, e, he, hb, hc, hlead, hnone⟩ := hdocuments
  have hne : e ≠ d := fun heq => by
    have hsame : Location.file "c" = .file "b" := hc.symm.trans (heq ▸ hb)
    exact absurd hsame (by decide)
  have hnot : ¬next.library.Reaches circleAndLeaf e d := by
    intro hreaches
    obtain heq | ⟨_, ⟨-, lead, hlead, -⟩, -⟩ := hreaches.cases_head
    · exact hne heq
    · rw [List.isEmpty_iff.1 hnone] at hlead
      cases hlead
  have hsession : Session.new {} = (Session.new {}).calls [] := rfl
  have hbefore := dependencies_first hsession rfl hd List.not_mem_nil List.not_mem_nil
    ⟨he, hlead⟩ hnot
  exact ⟨d, hd, e, hb, hc, ⟨he, hlead⟩, hnot, hbefore.1⟩

end Session

end WsdlTypes
