import WsdlTypes.Proofs.Declaration.Abridgement
import WsdlTypes.Proofs.Xml.Condensed
/-!
# Abridging by condensing

Elements are abridged by condensing them where nothing that is searched for dissolves, and where
nothing that is looked up one level below an element comes or goes (`Abridgement.condensing`).
-/

namespace WsdlTypes.Abridgement

open Xml (Element StartTag)

variable (dissolves : StartTag → Element → Bool)

/-- Whether no part of an element comes or goes with what dissolves in it. -/
structure Keeps (e : Element) : Prop where
  parts : ∀ x ∈ e.elements, dissolves e.start x = true →
    e.isPartOf x = false ∧ (x.content.condensed dissolves e.start).filter (e.isPartOf ·) = []
  facets (h : e.name = "restriction") : ∀ x ∈ e.elements, dissolves e.start x = false

variable {dissolves} {e : Element}

theorem Keeps.of_forall (h : ∀ x ∈ e.elements, dissolves e.start x = false) :
    Keeps dissolves e where
  parts x hx hdissolves := by
    rw [h x hx] at hdissolves
    cases hdissolves
  facets _ := h

theorem isSought_condensed : (e.condensed dissolves).isSought = e.isSought := by
  simp only [Element.isSought, Element.hasTag_condensed, Element.attribute?_condensed]

theorem Keeps.filter_elements (h : Keeps dissolves e) :
    (e.condensed dissolves).elements.filter (e.isPartOf ·)
      = (e.elements.filter (e.isPartOf ·)).map (Element.condensed dissolves) := by
  rw [Element.elements_condensed]
  refine e.content.filter_condensed (fun x hx hpart => ?_) (fun x => ?_)
    fun x hx hdissolves => (h.parts x hx hdissolves).2
  · cases hdissolves : dissolves e.start x with
    | false => rfl
    | true =>
      rw [(h.parts x hx hdissolves).1] at hpart
      cases hpart
  · simp only [Element.isPartOf, Element.hasTag_condensed]

theorem Keeps.facets_condensed (h : Keeps dissolves e) (hname : e.name = "restriction") :
    SimpleType.facets (e.condensed dissolves) = SimpleType.facets e := by
  rw [SimpleType.facets, Element.elements_condensed,
    e.content.condensed_eq_map (h.facets hname), List.filterMap_map, SimpleType.facets]
  congr 1
  funext x
  simp only [Function.comp_apply, Element.start_condensed, StartTag.unlined,
    Element.attribute?_condensed, Element.name_condensed]

variable (dissolves)

/-- Elements in which some are dissolved. -/
def condensing (covers : Element → Prop)
    (covers_of_hasTag : ∀ {e tag}, e.hasTag schemaUri tag = true → tag ≠ "annotation" → covers e)
    (hsought : ∀ holder x, x.isSought = true → dissolves holder x = false)
    (hkeeps : ∀ e, covers e → Keeps dissolves e) : Abridgement where
  abridge := Element.condensed dissolves
  covers := covers
  covers_of_hasTag := covers_of_hasTag
  start e := by rw [Element.start_condensed]; rfl
  sought e := by
    rw [Element.content_all_condensed]
    exact Xml.Content.filter_all_condensed hsought (fun _ => isSought_condensed) e.content e.start
  parts h := (hkeeps _ h).filter_elements
  facets h hname := (hkeeps _ h).facets_condensed hname

end WsdlTypes.Abridgement
