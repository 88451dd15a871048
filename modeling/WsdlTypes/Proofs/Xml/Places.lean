import Mathlib.Data.List.Basic
import Mathlib.Order.Basic
import WsdlTypes.Xml.Element
/-!
# Places in a document

The place of an element is the way down to it, as the index of a child at each level. Two elements
that are the same may stand at different places, so what is told of single elements is told of
places. Listed with their places (`Element.placed`) the elements of a tree are all that there are
(`Element.map_snd_placed`), each place with what `at?` finds there (`Element.mem_placed_iff`), and
the places come in document order, which is the lexicographic one (`Element.pairwise_placed`).
-/

namespace WsdlTypes.Xml

mutual

/-- The element and every element below it with the places they stand at, in document order. -/
def Element.placed : Element → List (List Nat × Element)
  | .mk start content => ([], .mk start content) :: content.placed 0

/-- Every element of a content with its place; the first child has the index that is given. -/
def Content.placed : Content → Nat → List (List Nat × Element)
  | .nil, _ => []
  | .text _ rest, i => rest.placed i
  | .element child rest, i =>
    child.placed.map (fun found => (i :: found.1, found.2)) ++ rest.placed (i + 1)

end

mutual

/-- They are the elements of the tree. -/
theorem Element.map_snd_placed (e : Element) : e.placed.map Prod.snd = e.all := by
  match e with
  | .mk start content =>
    rw [Element.placed, List.map_cons, Content.map_snd_placed content 0, Element.all]

theorem Content.map_snd_placed (c : Content) (i : Nat) : (c.placed i).map Prod.snd = c.all := by
  match c with
  | .nil => rfl
  | .text _ rest => exact Content.map_snd_placed rest i
  | .element child rest =>
    have hchild : (child.placed.map fun found => (i :: found.1, found.2)).map Prod.snd
        = child.all := by
      rw [List.map_map, ← Element.map_snd_placed child]
      rfl
    rw [Content.placed, List.map_append, hchild, Content.map_snd_placed rest (i + 1), Content.all]

end

/-! ## What is found at a place -/

theorem Element.at?_nil (e : Element) : e.at? [] = some e := by
  rw [at?]

theorem Element.at?_cons (e : Element) (i : Nat) (place : List Nat) :
    e.at? (i :: place) = e.elements[i]?.bind fun child => child.at? place := by
  rw [at?]
  cases e.elements[i]? <;> rfl

theorem Element.at?_cons_eq_some_iff {e x : Element} {i : Nat} {place : List Nat} :
    e.at? (i :: place) = some x ↔
      ∃ child, e.elements[i]? = some child ∧ child.at? place = some x := by
  rw [at?_cons, Option.bind_eq_some_iff]

mutual

/-- A place goes with what is found there. -/
theorem Element.mem_placed_iff {e x : Element} {place : List Nat} :
    (place, x) ∈ e.placed ↔ e.at? place = some x := by
  match e with
  | .mk start content =>
    rw [Element.placed, List.mem_cons, Content.mem_placed_iff]
    cases place with
    | nil =>
      rw [Element.at?_nil, Prod.mk.injEq, Option.some.injEq]
      constructor
      · rintro (⟨-, rfl⟩ | ⟨_, _, heq, -⟩)
        · rfl
        · cases heq
      · rintro rfl
        exact Or.inl ⟨rfl, rfl⟩
    | cons i rest =>
      rw [Element.at?_cons_eq_some_iff]
      constructor
      · rintro (heq | ⟨k, rest', heq, hfound⟩)
        · cases heq
        · rw [Nat.zero_add] at heq
          obtain ⟨rfl, rfl⟩ := List.cons.inj heq
          exact hfound
      · intro hfound
        exact Or.inr ⟨i, rest, by rw [Nat.zero_add], hfound⟩

theorem Content.mem_placed_iff {c : Content} {x : Element} {i : Nat} {place : List Nat} :
    (place, x) ∈ c.placed i ↔ ∃ k rest, place = (i + k) :: rest ∧
      ∃ child, c.elements[k]? = some child ∧ child.at? rest = some x := by
  match c with
  | .nil =>
    simp only [Content.placed, Content.elements, List.not_mem_nil, List.getElem?_nil, reduceCtorEq,
      false_and, exists_false, and_false]
  | .text _ more => exact Content.mem_placed_iff (c := more)
  | .element child more =>
    rw [Content.placed, List.mem_append, Content.mem_placed_iff (c := more), Content.elements]
    constructor
    · rintro (hmem | ⟨k, rest, rfl, found, hfound, hat⟩)
      · obtain ⟨⟨inner, x'⟩, hinner, heq⟩ := List.mem_map.1 hmem
        obtain ⟨rfl, rfl⟩ := Prod.mk.inj heq
        exact ⟨0, inner, rfl, child, rfl, Element.mem_placed_iff.1 hinner⟩
      · exact ⟨k + 1, rest, by rw [Nat.add_assoc, Nat.add_comm 1], found, hfound, hat⟩
    · rintro ⟨k, rest, rfl, found, hfound, hat⟩
      cases k with
      | zero =>
        rw [List.getElem?_cons_zero, Option.some.injEq] at hfound
        subst hfound
        exact Or.inl (List.mem_map.2 ⟨(rest, x), Element.mem_placed_iff.2 hat, rfl⟩)
      | succ k =>
        rw [List.getElem?_cons_succ] at hfound
        exact Or.inr ⟨k, rest, by rw [Nat.add_assoc, Nat.add_comm 1], found, hfound, hat⟩

end

/-! ## Document order -/

mutual

/-- **The places come in document order.** -/
theorem Element.pairwise_placed (e : Element) : (e.placed.map Prod.fst).Pairwise (· < ·) := by
  match e with
  | .mk start content =>
    rw [Element.placed, List.map_cons, List.pairwise_cons]
    refine ⟨fun place hplace => ?_, Content.pairwise_placed content 0⟩
    obtain ⟨⟨_, x⟩, hmem, rfl⟩ := List.mem_map.1 hplace
    obtain ⟨k, rest, hcons, -⟩ := Content.mem_placed_iff.1 hmem
    rw [hcons]
    exact List.nil_lt_cons _ _

theorem Content.pairwise_placed (c : Content) (i : Nat) :
    ((c.placed i).map Prod.fst).Pairwise (· < ·) := by
  match c with
  | .nil => exact List.Pairwise.nil
  | .text _ rest => exact Content.pairwise_placed rest i
  | .element child rest =>
    have hchild : (child.placed.map fun found => (i :: found.1, found.2)).map Prod.fst
        = (child.placed.map Prod.fst).map (i :: ·) := by
      rw [List.map_map, List.map_map]
      rfl
    rw [Content.placed, List.map_append, hchild, List.pairwise_append]
    refine ⟨?_, Content.pairwise_placed rest (i + 1), fun place hplace other hother => ?_⟩
    · rw [List.pairwise_map]
      exact (Element.pairwise_placed child).imp fun hlt => List.cons_lt_cons_self.2 hlt
    · -- What stands in a later child has a greater index in front.
      obtain ⟨inner, -, rfl⟩ := List.mem_map.1 hplace
      obtain ⟨⟨_, x⟩, hmem, rfl⟩ := List.mem_map.1 hother
      obtain ⟨k, rest', hcons, -⟩ := Content.mem_placed_iff.1 hmem
      rw [hcons]
      exact List.cons_lt_cons_iff.2 (Or.inl (by omega))

end

end WsdlTypes.Xml
