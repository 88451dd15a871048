import WsdlTypes.Proofs.Session.Domain
import WsdlTypes.Proofs.Walk.Growth
/-!
# What a call leaves as it was

A call that brings no document in leaves everything as it was (`call_eq_of_quiet`). One that
does adds findings and operations behind those that there were, and of the types it changes
only those that the new documents declare: declarations are merged into them, behind what they
had (`growth_call`). Put together this is the frame of a call (`call_frame`).
-/

namespace WsdlTypes

namespace Session

variable {session : Session} {c : Call}

/-! ## The two kinds of calls -/

/-- A call that brings no document in changes nothing but what counts as tried. -/
theorem call_eq_of_quiet
    (hquiet : ∀ root, (session.resolve c.tree c.source).2 ≠ .ok (.loaded root)) :
    ∃ visited, session.call c = { session with library := { session.library with visited } } := by
  have houtcome := call_outcome session c
  generalize hnext : session.call c = next at houtcome
  cases houtcome with
  | quiet _ visited => exact ⟨visited, rfl⟩
  | @absorbed location library root hparse hload =>
    refine absurd ?_ (hquiet root)
    simp only [resolve, hparse, load, hload]

/-- What was noted stays, and more may come behind it. -/
theorem findings_prefix_call : session.findings <+: (session.call c).findings := by
  have houtcome := call_outcome session c
  generalize session.call c = next at houtcome
  cases houtcome with
  | quiet => exact List.prefix_refl _
  | @absorbed location library root =>
    rw [findings_takeIn]
    exact (List.prefix_append session.findings _).trans (List.prefix_append _ _)

/-- And so do the operations. -/
theorem operations_prefix_call : session.operations <+: (session.call c).operations := by
  have houtcome := call_outcome session c
  generalize session.call c = next at houtcome
  cases houtcome with
  | quiet => exact List.prefix_refl _
  | absorbed =>
    rw [operations_takeIn]
    exact List.prefix_append session.operations _

theorem diagnostics_prefix_call : session.diagnostics <+: (session.call c).diagnostics := by
  rw [diagnostics, diagnostics, config_call]
  exact findings_prefix_call.map _

/-- **A call lets types grow**, those alone that the documents which came in declare. -/
theorem growth_call (hnumbered : session.library.Numbered) :
    ∃ fresh, (session.call c).library.documents = session.library.documents ++ fresh ∧
      TypeMap.Growth (fun key => ∃ document ∈ fresh, (session.call c).Declared document key)
        session.types (session.call c).types := by
  obtain ⟨fresh, hdocuments, hperm⟩ := schemasOf_order (c := c) hnumbered
  refine ⟨fresh, hdocuments, ?_⟩
  have hgrowth :=
    Walk.growth_documents session.config (session.call c).catalog session.types (session.order c)
  rw [← types_call] at hgrowth
  refine ⟨hgrowth.grown, fun key hkey => hgrowth.same key ?_⟩
  rw [exists_declarationsOf_iff hperm]
  rintro ⟨document, hdocument, hdeclares⟩
  exact hkey ⟨document, hdocument, declared_iff.1 hdeclares⟩

/-- **The frame of a call.** After any calls, whatever the files were at each of them, a location
is asked for. If the call is an error, or the document was there already, then types,
operations, diagnostics, documents and what these take over are what they were. If a document
comes in, the diagnostics and the operations that there were come first among the new ones, and
every type is still there: as it was in all its parts unless one of the documents that came in
declares a type of its name, and in any case under the same key and name, with the properties
that it had at the front. -/
theorem call_frame (config : Config) (l : List Call) (c : Call) :
    let session := (Session.new config).calls l
    let next := session.call c
    match (session.resolve c.tree c.source).2 with
    | .ok (.loaded _) =>
      session.diagnostics <+: next.diagnostics ∧ session.operations <+: next.operations ∧
        ∃ fresh, next.library.documents = session.library.documents ++ fresh ∧
          ∀ key type, session.types.get? key = some type →
            ∃ later, next.types.get? key = some later ∧
              ((∀ document ∈ fresh, ¬ next.Declared document key) → later = type) ∧
              later.key = type.key ∧ later.name = type.name ∧
              type.properties <+: later.properties
    | .ok .alreadyLoaded | .error _ =>
      next.types = session.types ∧ next.operations = session.operations ∧
        next.diagnostics = session.diagnostics ∧
        next.library.documents = session.library.documents ∧
        next.inherited = session.inherited := by
  intro session next
  have hquiet : (∀ root, (session.resolve c.tree c.source).2 ≠ .ok (.loaded root)) →
      next.types = session.types ∧ next.operations = session.operations ∧
        next.diagnostics = session.diagnostics ∧
        next.library.documents = session.library.documents ∧
        next.inherited = session.inherited := fun hnone => by
    obtain ⟨visited, hsame⟩ := call_eq_of_quiet hnone
    have hnext : next = { session with library := { session.library with visited } } := hsame
    rw [hnext]
    exact ⟨rfl, rfl, rfl, rfl, rfl⟩
  cases hresult : (session.resolve c.tree c.source).2 with
  | error cause => exact hquiet (by simp [hresult])
  | ok outcome =>
    cases outcome with
    | alreadyLoaded => exact hquiet (by simp [hresult])
    | loaded root =>
      have hnumbered : session.library.Numbered := numbered_calls (numbered_new config) l
      obtain ⟨fresh, hdocuments, hgrowth⟩ := growth_call (c := c) hnumbered
      refine ⟨diagnostics_prefix_call, operations_prefix_call, fresh, hdocuments,
        fun key type hget => ?_⟩
      obtain ⟨later, hlater, hgrows⟩ := hgrowth.grown key type hget
      refine ⟨later, hlater, fun hother => ?_, hgrows.key, hgrows.name, hgrows.properties⟩
      -- A name that no new document declares has the type that it had.
      have hsame := hgrowth.same key fun ⟨document, hmem, hdeclared⟩ =>
        hother document hmem hdeclared
      rw [hlater, hget] at hsame
      exact Option.some.inj hsame

end Session

end WsdlTypes
