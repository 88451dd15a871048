import WsdlTypes.SortedMap
/-!
# Expanded names

The identity of a declaration: the URI of its namespace and its local name. Declarations
and references to them are compared by expanded name, whichever documents they stand in.
Names are ordered by URI first.
-/

namespace WsdlTypes

/-- A local name in a namespace. -/
structure ExpandedName where
  uri : String
  name : String
deriving DecidableEq, Repr, Inhabited

namespace ExpandedName

/-- The name with its URI in braces in front, or alone when the URI is empty. -/
def display (key : ExpandedName) : String :=
  if key.uri.isEmpty then key.name else "\x7b" ++ key.uri ++ "\x7d" ++ key.name

instance : LT ExpandedName :=
  ⟨fun a b => a.uri < b.uri ∨ (a.uri = b.uri ∧ a.name < b.name)⟩

theorem lt_iff {a b : ExpandedName} :
    a < b ↔ a.uri < b.uri ∨ (a.uri = b.uri ∧ a.name < b.name) := Iff.rfl

instance : DecidableLT ExpandedName := fun a b => decidable_of_iff _ (lt_iff (a := a) (b := b)).symm

instance : StrictOrder ExpandedName where
  irrefl a h := by
    rcases lt_iff.1 h with h | ⟨-, h⟩ <;> exact StrictOrder.irrefl _ h
  trans {a b c} h₁ h₂ := by
    rcases lt_iff.1 h₁ with h₁ | ⟨e₁, h₁⟩ <;> rcases lt_iff.1 h₂ with h₂ | ⟨e₂, h₂⟩
    · exact Or.inl (StrictOrder.trans h₁ h₂)
    · exact Or.inl (e₂ ▸ h₁)
    · exact Or.inl (e₁ ▸ h₂)
    · exact Or.inr ⟨e₁.trans e₂, StrictOrder.trans h₁ h₂⟩
  connected {a b} h₁ h₂ := by
    simp only [lt_iff, not_or, not_and] at h₁ h₂
    have huri : a.uri = b.uri := StrictOrder.connected h₁.1 h₂.1
    have hname : a.name = b.name := StrictOrder.connected (h₁.2 huri) (h₂.2 huri.symm)
    cases a; cases b; cases huri; cases hname; rfl

end ExpandedName

end WsdlTypes
