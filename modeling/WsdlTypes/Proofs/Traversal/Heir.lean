import WsdlTypes.Proofs.Traversal.Order
/-!
# What documents take over

The namespace that a document takes over is settled when it comes in. Until then nothing is
noted under its number, and later nothing else is (`Heirs.run`).
-/

namespace WsdlTypes.Traversal

variable {tree : File.Tree} {t t' : Traversal} {found : Document}

/-- A document that comes in inherits what the reference hands on, and no other one anything
else than before. -/
theorem lookup_enter (reference : DocumentReference)
    (hnone : t.inherited.lookup found.id = none) (id : Nat) :
    (t.enter found reference).inherited.lookup id
      = if id = found.id then reference.includedInto else t.inherited.lookup id := by
  unfold Traversal.enter
  cases hinto : reference.includedInto with
  | none =>
    by_cases heq : id = found.id
    · simpa [heq] using hnone
    · simp [heq]
  | some target =>
    by_cases heq : id = found.id
    · simp [heq]
    · have hne : (id == found.id) = false := by simpa using heq
      simp [List.lookup_cons, hne, heq]

/-- What documents have taken over in a traversal, which began when some others had. -/
structure Heirs (library : Library) (inherited : List (Nat × String)) (t : Traversal) :
    Prop where
  grown : library.documents.length ≤ t.library.documents.length
  /-- The documents that were there have what they had. -/
  kept : ∀ id < library.documents.length, t.inherited.lookup id = inherited.lookup id
  /-- A document that is still to come has nothing. -/
  vacant : ∀ id, t.library.documents.length ≤ id → t.inherited.lookup id = none

variable {library : Library} {inherited : List (Nat × String)}

/-- **A move changes what no document has that was there before.** -/
theorem Heirs.move (hmove : Move tree t t') (h : Heirs library inherited t) :
    Heirs library inherited t' := by
  cases hmove with
  | leave => exact ⟨h.grown, h.kept, h.vacant⟩
  | pass _ hfollow =>
    have hsame := Library.documents_follow_of_alreadyLoaded hfollow
    exact ⟨hsame ▸ h.grown, h.kept, hsame ▸ h.vacant⟩
  | fail _ hfollow =>
    have hsame := Library.documents_follow_of_error hfollow
    exact ⟨hsame ▸ h.grown, h.kept, hsame ▸ h.vacant⟩
  | @enter document found reference pending outer library' hstack hfollow =>
    obtain ⟨hid, hdocuments⟩ := Library.follow_eq_loaded_append hfollow
    have hlookup := lookup_enter reference
      (t := { t with library := library', stack := ⟨document, pending⟩ :: outer })
      (h.vacant found.id (Nat.le_of_eq hid.symm))
    have hlength : library'.documents.length = t.library.documents.length + 1 := by
      rw [hdocuments, List.length_append, List.length_singleton]
    have hgrown := h.grown
    refine ⟨?_, fun id hlt => ?_, fun id hle => ?_⟩
    · show library.documents.length ≤ library'.documents.length
      omega
    · rw [hlookup, if_neg (by omega)]
      exact h.kept id hlt
    · have hle' : library'.documents.length ≤ id := hle
      rw [hlookup, if_neg (by omega)]
      exact h.vacant id (by omega)

theorem Heirs.run (h : Heirs library inherited t) :
    Heirs library inherited (Traversal.run tree t) :=
  run_induction Heirs.move h

/-- The document that a traversal starts from takes nothing over. -/
theorem Heirs.ofRoot {library' : Library} {location : Location} {root : Document}
    (hvacant : ∀ id, library.documents.length ≤ id → inherited.lookup id = none)
    (hload : library.load tree location = (library', .ok (.loaded root))) :
    Heirs library inherited (ofRoot library' inherited root) := by
  have hlength : library'.documents.length = library.documents.length + 1 := by
    rw [(Library.load_eq_loaded_append hload).2, List.length_append, List.length_singleton]
  refine ⟨?_, fun _ _ => rfl, fun id hle => ?_⟩
  · show library.documents.length ≤ library'.documents.length
    omega
  · have hle' : library'.documents.length ≤ id := hle
    exact hvacant id (by omega)

end WsdlTypes.Traversal
