import WsdlTypes.Report
import WsdlTypes.Xml.Element
/-!
# Lines

Elements know the line that they stand on, and findings the line that they were made on. An
element whose lines are gone (`Xml.Element.unlined`) is the same in all else, and a report whose
lines are gone (`Report.unlined`) still tells what was found, where, and in which order.
-/

namespace WsdlTypes

/-! ## Elements without their lines -/

namespace Xml

mutual

/-- The element without the lines that it and everything in it stand on. -/
def Element.unlined : Element → Element
  | .mk start content => .mk { start with line := 0 } content.unlined

/-- The content without the lines that its elements stand on. -/
def Content.unlined : Content → Content
  | .nil => .nil
  | .text chars rest => .text chars rest.unlined
  | .element child rest => .element child.unlined rest.unlined

end

theorem Content.elements_unlined (c : Content) :
    c.unlined.elements = c.elements.map Element.unlined := by
  cases c with
  | nil => rfl
  | text _ rest => exact elements_unlined rest
  | element child rest =>
    simp only [unlined, elements, List.map_cons, elements_unlined rest]

mutual

theorem Element.all_unlined (e : Element) : e.unlined.all = e.all.map Element.unlined := by
  match e with
  | .mk start content =>
    simp only [Element.unlined, Element.all, List.map_cons, Content.all_unlined content]

theorem Content.all_unlined (c : Content) : c.unlined.all = c.all.map Element.unlined := by
  match c with
  | .nil => rfl
  | .text _ rest => exact Content.all_unlined rest
  | .element child rest =>
    simp only [Content.unlined, Content.all, List.map_append, Element.all_unlined child,
      Content.all_unlined rest]

end

mutual

theorem Element.allText_unlined (e : Element) : e.unlined.allText = e.allText := by
  match e with
  | .mk start content => exact Content.allText_unlined content

theorem Content.allText_unlined (c : Content) : c.unlined.allText = c.allText := by
  match c with
  | .nil => rfl
  | .text _ rest =>
    simp only [Content.unlined, Content.allText, Content.allText_unlined rest]
  | .element child rest =>
    simp only [Content.unlined, Content.allText, Element.allText_unlined child,
      Content.allText_unlined rest]

end

namespace Element

variable (e : Element) (uri name : String)

@[simp] theorem start_unlined : e.unlined.start = { e.start with line := 0 } := by
  cases e; rfl

@[simp] theorem content_unlined : e.unlined.content = e.content.unlined := by
  cases e; rfl

@[simp] theorem line_unlined : e.unlined.line = 0 := by
  simp only [line, start_unlined]

@[simp] theorem name_unlined : e.unlined.name = e.name := by
  simp only [Element.name, start_unlined]

@[simp] theorem hasTag_unlined : e.unlined.hasTag uri name = e.hasTag uri name := by
  simp only [hasTag, start_unlined]

@[simp] theorem attribute?_unlined : e.unlined.attribute? name = e.attribute? name := by
  simp only [attribute?, start_unlined]

@[simp] theorem elements_unlined : e.unlined.elements = e.elements.map unlined := by
  simp only [elements, content_unlined, Content.elements_unlined]

/-- Elements are picked by what they are and not by where they stand. -/
theorem hasTag_comp_unlined :
    (fun e : Element => e.hasTag uri name) ∘ unlined = fun e => e.hasTag uri name := by
  funext e
  exact hasTag_unlined e uri name

@[simp] theorem descendant?_unlined :
    e.unlined.descendant? uri name = (e.descendant? uri name).map unlined := by
  simp only [descendant?, all_unlined, List.find?_map, hasTag_comp_unlined]

@[simp] theorem inside_unlined :
    e.unlined.inside uri name = (e.inside uri name).map unlined := by
  simp only [inside, content_unlined, Content.all_unlined, List.filter_map, hasTag_comp_unlined]

end Element

end Xml

/-! ## Reports without their lines -/

/-- The finding without the line that it was made on. -/
def Finding.unlined (finding : Finding) : Finding := { finding with line := 0 }

namespace Report

variable {α β : Type}

/-- The report without the lines that its findings were made on. -/
def unlined (r : Report α) : Report α := ⟨r.value, r.findings.map Finding.unlined⟩

@[simp] theorem value_unlined (r : Report α) : r.unlined.value = r.value := rfl

@[simp] theorem unlined_pure (a : α) : (pure a : Report α).unlined = pure a := rfl

@[simp] theorem unlined_bind (r : Report α) (f : α → Report β) :
    (r >>= f).unlined = r.unlined >>= fun a => (f a).unlined :=
  Report.ext rfl (List.map_append ..)

@[simp] theorem unlined_map (f : α → β) (r : Report α) : (f <$> r).unlined = f <$> r.unlined :=
  Report.ext rfl (by simp only [unlined, findings_map])

@[simp] theorem unlined_each (f : α → Report β) (l : List α) :
    (each f l).unlined = each (fun a => (f a).unlined) l :=
  Report.ext rfl (by simp only [unlined, findings_each, List.map_flatMap])

end Report

end WsdlTypes
