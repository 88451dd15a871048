import WsdlTypes.Proofs.Lockstep.Declaration
import WsdlTypes.Proofs.Lockstep.Operations
import WsdlTypes.Proofs.Session.Failures
/-!
# Sessions in step

Sessions that keep step take in declarations that are described alike and stay in step
(`Matches.takeIn`). Which documents a call brings in is a matter of the documents that there are,
so two sessions with the same documents have the same ones after the same calls, and the calls
come to the same (`SameDocuments.results_eq`).
-/

namespace WsdlTypes.Session

/-- What two sessions have resolved matches. -/
structure Matches (d : Leeway) (session other : Session) : Prop where
  types : session.types.Matches d other.types
  operations : List.Forall₂ (Operation.Matches d) session.operations other.operations
  findings : List.Forall₂ (Finding.Matches d) session.findings other.findings

/-- Two sessions into which the same documents came. -/
structure SameDocuments (session other : Session) : Prop where
  library : other.library = session.library
  inherited : other.inherited = session.inherited

variable {d : Leeway} {session other : Session} {c : Call}

theorem matches_new (d : Leeway) (config config' : Config) :
    Matches d (Session.new config) (Session.new config') :=
  ⟨TypeMap.matches_empty d, .nil, .nil⟩

/-- **Sessions stay in step** where they take in declarations that are described alike, and
service descriptions with the same operations. -/
theorem Matches.takeIn (h : Matches d session other)
    (hvalue : d.called session.config.valueName other.config.valueName)
    (hknown : ∀ key, d.known (session.config.naming.qualifiedName key)
      (other.config.naming.qualifiedName key))
    {order : List Nat}
    (hdeclarations : List.Forall₂
      (Declaration.Matches d session.config other.config session.catalog other.catalog)
      (session.catalog.declarationsOf order) (other.catalog.declarationsOf order))
    (hdefinitions : List.Forall₂ (Service.SameOperations d session.catalog other.catalog)
      (session.catalog.definitionsOf order) (other.catalog.definitionsOf order)) :
    Matches d (session.takeIn order) (other.takeIn order) := by
  have hwalk : Report.Matches d (Walk.Matches d) (session.walk order) (other.walk order) :=
    Walk.matches_documents hvalue hdeclarations h.types
  have hoperations := Service.matches_operationsOf hknown hwalk.value.types hdefinitions
  refine ⟨hwalk.value.types, ?_, ?_⟩
  · rw [operations_takeIn, operations_takeIn]
    exact List.rel_append h.operations hoperations.value
  · rw [findings_takeIn, findings_takeIn, hwalk.value.fresh]
    refine List.rel_append h.findings (List.rel_append hwalk.findings ?_)
    exact List.rel_append (References.matches_check hwalk.value.types _) hoperations.findings

/-! ## The same documents -/

/-- What a call comes to is what the library makes of it. -/
theorem result_eq (session : Session) (tree : File.Tree) (source : String) :
    (session.resolve tree source).2
      = Location.parse source >>= fun location => (session.library.load tree location).2 := by
  cases hparse : Location.parse source with
  | error cause =>
    simp only [resolve, hparse]
    rfl
  | ok location =>
    show _ = (session.library.load tree location).2
    rcases hload : session.library.load tree location with ⟨library, outcome⟩
    cases outcome with
    | error cause => simp only [resolve, hparse, load, hload]
    | ok outcome => cases outcome <;> simp only [resolve, hparse, load, hload]

namespace SameDocuments

theorem catalog_eq (h : SameDocuments session other) : other.catalog = session.catalog := by
  rw [catalog, catalog, h.library, h.inherited]

/-- **A call does the same to both sessions**: no document comes in, or the same ones do. -/
theorem call_cases (h : SameDocuments session other) (c : Call) :
    (∃ library, session.call c = { session with library } ∧
        other.call c = { other with library }) ∨
      ∃ t : Traversal, session.call c = (session.arrived t).takeIn t.order ∧
        other.call c = (other.arrived t).takeIn t.order := by
  cases hparse : Location.parse c.source with
  | error cause =>
    refine Or.inl ⟨session.library, ?_, ?_⟩
    · simp only [call, resolve, hparse]
    · simp only [call, resolve, hparse, ← h.library]
  | ok location =>
    rcases hload : session.library.load c.tree location with ⟨library, outcome⟩
    have hload' : other.library.load c.tree location = (library, outcome) := h.library ▸ hload
    cases outcome with
    | error cause =>
      exact Or.inl ⟨library, by simp only [call, resolve, hparse, load, hload],
        by simp only [call, resolve, hparse, load, hload']⟩
    | ok outcome =>
      cases outcome with
      | alreadyLoaded =>
        exact Or.inl ⟨library, by simp only [call, resolve, hparse, load, hload],
          by simp only [call, resolve, hparse, load, hload']⟩
      | loaded root =>
        refine Or.inr ⟨session.traversal c.tree library root, call_eq_of_loaded hparse hload, ?_⟩
        rw [call_eq_of_loaded hparse hload', traversal, traversal, h.inherited]

/-- And the sessions have the same documents behind it. -/
theorem call (h : SameDocuments session other) (c : Call) :
    SameDocuments (session.call c) (other.call c) := by
  rcases h.call_cases c with ⟨library, hcall, hcall'⟩ | ⟨t, hcall, hcall'⟩
  · rw [hcall, hcall']
    exact ⟨rfl, h.inherited⟩
  · rw [hcall, hcall']
    exact ⟨rfl, rfl⟩

theorem calls (h : SameDocuments session other) (l : List Call) :
    SameDocuments (session.calls l) (other.calls l) := by
  induction l generalizing session other with
  | nil => exact h
  | cons c rest ih => exact ih (h.call c)

/-- **What calls come to** depends on the documents alone. -/
theorem results_eq (h : SameDocuments session other) (l : List Call) :
    other.results l = session.results l := by
  induction l generalizing session other with
  | nil => rfl
  | cons c rest ih =>
    rw [results, results, result_eq, result_eq, h.library, ih (h.call c)]

/-- **A call keeps sessions in step** that have the same documents, where what it takes in is
described alike on both sides. -/
theorem matches_call (h : SameDocuments session other) (hmatches : Matches d session other)
    (hvalue : d.called session.config.valueName other.config.valueName)
    (hknown : ∀ key, d.known (session.config.naming.qualifiedName key)
      (other.config.naming.qualifiedName key))
    (hdeclarations : ∀ order, ∀ declared ∈ (session.call c).catalog.declarationsOf order,
      Declaration.Matches d session.config other.config (session.call c).catalog
        (session.call c).catalog declared declared) :
    Matches d (session.call c) (other.call c) := by
  rcases h.call_cases c with ⟨library, hcall, hcall'⟩ | ⟨t, hcall, hcall'⟩
  · rw [hcall, hcall']
    exact ⟨hmatches.types, hmatches.operations, hmatches.findings⟩
  · rw [hcall, catalog_takeIn] at hdeclarations
    rw [hcall, hcall']
    have harrived : Matches d (session.arrived t) (other.arrived t) :=
      ⟨hmatches.types, hmatches.operations,
        List.rel_append hmatches.findings (Report.matches_findings_refl _)⟩
    refine harrived.takeIn hvalue hknown ?_ ?_
    · exact List.forall₂_same.2 (hdeclarations t.order)
    · exact List.forall₂_same.2 fun definitions _ =>
        Service.SameOperations.refl d _ definitions

end SameDocuments

end WsdlTypes.Session
