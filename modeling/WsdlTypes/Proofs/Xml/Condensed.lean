import Mathlib.Data.List.Basic
import WsdlTypes.Proofs.Lines
/-!
# Condensed elements

An element is condensed (`Element.condensed`) by dissolving some of the elements in it, so that
what stands in these moves up to their place, and by dropping texts and lines. Whether an element
dissolves may depend on the element and on the start tag of the one that it would come to stand
in. What never dissolves is found again at any depth, in the same order
(`Element.filter_all_condensed`), and one level below an element the same stands as before but for
what has moved up there (`Content.filter_condensed`).
-/

namespace WsdlTypes.Xml

theorem Content.elements_ofList (l : List Element) :
    (Content.ofList (l.map .inr)).elements = l := by
  induction l with
  | nil => rfl
  | cons first rest ih => exact congrArg (first :: ·) ih

theorem Content.all_ofList (l : List Element) :
    (Content.ofList (l.map .inr)).all = l.flatMap Element.all := by
  induction l with
  | nil => rfl
  | cons first rest ih => exact congrArg (first.all ++ ·) ih

/-- The start tag without the line. -/
def StartTag.unlined (start : StartTag) : StartTag := { start with line := 0 }

mutual

/-- The element with some of the elements in it dissolved, and without texts and lines. -/
def Element.condensed (dissolves : StartTag → Element → Bool) : Element → Element
  | .mk start content =>
    .mk start.unlined (.ofList ((content.condensed dissolves start).map .inr))

/-- The elements that come to stand in a holder in the place of a content. -/
def Content.condensed (dissolves : StartTag → Element → Bool) (holder : StartTag) :
    Content → List Element
  | .nil => []
  | .text _ rest => rest.condensed dissolves holder
  | .element (.mk start content) rest =>
    (if dissolves holder (.mk start content) then content.condensed dissolves holder
      else [.mk start.unlined (.ofList ((content.condensed dissolves start).map .inr))])
    ++ rest.condensed dissolves holder

end

variable {dissolves : StartTag → Element → Bool} {e : Element} {holder : StartTag}

@[simp] theorem Element.start_condensed :
    (e.condensed dissolves).start = e.start.unlined := by
  cases e; rfl

@[simp] theorem Element.hasTag_condensed (uri name : String) :
    (e.condensed dissolves).hasTag uri name = e.hasTag uri name := by
  simp only [hasTag, start_condensed, StartTag.unlined]

@[simp] theorem Element.attribute?_condensed (name : String) :
    (e.condensed dissolves).attribute? name = e.attribute? name := by
  simp only [attribute?, start_condensed, StartTag.unlined]

@[simp] theorem Element.name_condensed : (e.condensed dissolves).name = e.name := by
  simp only [Element.name, start_condensed, StartTag.unlined]

theorem Element.elements_condensed :
    (e.condensed dissolves).elements = e.content.condensed dissolves e.start := by
  cases e
  exact Content.elements_ofList _

theorem Element.content_all_condensed :
    (e.condensed dissolves).content.all
      = (e.content.condensed dissolves e.start).flatMap Element.all := by
  cases e
  exact Content.all_ofList _

/-- An element of the content either dissolves or is condensed. -/
theorem Content.condensed_element (child : Element) (rest : Content) :
    (Content.element child rest).condensed dissolves holder
      = (if dissolves holder child then child.content.condensed dissolves holder
          else [child.condensed dissolves]) ++ rest.condensed dissolves holder := by
  cases child; rfl

/-! ## What is found at any depth -/

mutual

/-- **What does not dissolve is found again**, in the same order. -/
theorem Element.filter_all_condensed {q : Element → Bool}
    (hkept : ∀ holder x, q x = true → dissolves holder x = false)
    (hq : ∀ x, q (x.condensed dissolves) = q x) (e : Element) :
    (e.condensed dissolves).all.filter q
      = (e.all.filter q).map (Element.condensed dissolves) := by
  match e with
  | .mk start content =>
    have hbelow := Content.filter_all_condensed hkept hq content start
    rw [Element.all_eq, Element.all_eq, List.filter_cons, List.filter_cons, hq]
    simp only [Element.condensed, Element.content_mk, Content.all_ofList, hbelow]
    split <;> rfl

theorem Content.filter_all_condensed {q : Element → Bool}
    (hkept : ∀ holder x, q x = true → dissolves holder x = false)
    (hq : ∀ x, q (x.condensed dissolves) = q x) (c : Content) (holder : StartTag) :
    ((c.condensed dissolves holder).flatMap Element.all).filter q
      = (c.all.filter q).map (Element.condensed dissolves) := by
  match c with
  | .nil => rfl
  | .text _ rest => exact Content.filter_all_condensed hkept hq rest holder
  | .element (.mk start content) rest =>
    rw [Content.condensed_element, List.flatMap_append, List.filter_append,
      Content.filter_all_condensed hkept hq rest holder, Content.all, List.filter_append,
      List.map_append]
    congr 1
    split
    · rename_i hdissolves
      have hlost : q (.mk start content) = false := by
        cases htrue : q (.mk start content) with
        | false => rfl
        | true =>
          rw [hkept holder _ htrue] at hdissolves
          cases hdissolves
      rw [Element.all_eq, List.filter_cons, hlost]
      exact Content.filter_all_condensed hkept hq content holder
    · rw [List.flatMap_singleton]
      exact Element.filter_all_condensed hkept hq (.mk start content)

end

/-! ## What stands one level below -/

/-- What does not dissolve stands where it stood, where nothing else of its kind moves up. -/
theorem Content.filter_condensed {q : Element → Bool} (c : Content)
    (hkept : ∀ x ∈ c.elements, q x = true → dissolves holder x = false)
    (hq : ∀ x, q (x.condensed dissolves) = q x)
    (hmoved : ∀ x ∈ c.elements, dissolves holder x = true →
      (x.content.condensed dissolves holder).filter q = []) :
    (c.condensed dissolves holder).filter q
      = (c.elements.filter q).map (Element.condensed dissolves) := by
  match c with
  | .nil => rfl
  | .text _ rest => exact filter_condensed rest hkept hq hmoved
  | .element child rest =>
    have ih := filter_condensed rest (fun x hx => hkept x (List.mem_cons_of_mem _ hx)) hq
      fun x hx => hmoved x (List.mem_cons_of_mem _ hx)
    have hchild := hkept child List.mem_cons_self
    rw [condensed_element, List.filter_append, ih, elements, List.filter_cons]
    split
    · rename_i hdissolves
      rw [hmoved child List.mem_cons_self hdissolves, List.nil_append]
      split
      · rename_i htrue
        rw [hchild htrue] at hdissolves
        cases hdissolves
      · rfl
    · rw [List.filter_cons, hq]
      split <;> rfl

/-- Where nothing dissolves every element stays. -/
theorem Content.condensed_eq_map (c : Content)
    (h : ∀ x ∈ c.elements, dissolves holder x = false) :
    c.condensed dissolves holder = c.elements.map (Element.condensed dissolves) := by
  match c with
  | .nil => rfl
  | .text _ rest => exact condensed_eq_map rest h
  | .element child rest =>
    rw [condensed_element, h child List.mem_cons_self, elements, List.map_cons,
      condensed_eq_map rest fun x hx => h x (List.mem_cons_of_mem _ hx)]
    rfl

end WsdlTypes.Xml
