import WsdlTypes.Proofs.Xml.Condensed
import WsdlTypes.Scalar
/-!
# Content models

The particles of a content model are the elements that are reached through complex types, complex
contents, derivations and groups (`Element.particles`). A model nests groups to any depth
(`Element.isModel`); when the models in an element dissolve (`Element.ungrouped`) their particles
are left in their places (`Content.condensed_of_isModel`). So it makes no difference to the
ungrouped element whether each model is written as one sequence of its particles
(`Element.ungrouped_sequenced`).
-/

namespace WsdlTypes.Xml

/-! ## Particles -/

/-- The tags of the elements that particles are reached through. -/
def Element.passageTags : List String :=
  ["complexType", "complexContent", "extension", "restriction", "sequence", "choice", "all"]

/-- The particles of a content, in document order. -/
def Content.particles : Content → List Element
  | .nil => []
  | .text _ rest => rest.particles
  | .element (.mk start content) rest =>
    (if Element.hasTag (.mk start content) schemaUri "element" then [.mk start content]
      else if Element.passageTags.any (Element.hasTag (.mk start content) schemaUri ·)
      then content.particles
      else [])
    ++ rest.particles

/-- The particles in an element, in document order. -/
def Element.particles (e : Element) : List Element := e.content.particles

/-- A particle is found where elements are searched for, and in the same order. -/
theorem Content.particles_sublist (c : Content) :
    c.particles.Sublist (c.all.filter (·.hasTag schemaUri "element")) := by
  cases c with
  | nil => exact List.Sublist.refl _
  | text _ rest => exact particles_sublist rest
  | element child rest =>
    cases child with
    | mk start content =>
      rw [particles, all, List.filter_append, Element.all_eq, List.filter_cons]
      refine List.Sublist.append ?_ (particles_sublist rest)
      split
      · exact (List.nil_sublist _).cons_cons _
      · split
        · exact particles_sublist content
        · exact List.nil_sublist _

theorem Element.particles_sublist (e : Element) :
    e.particles.Sublist (e.inside schemaUri "element") :=
  e.content.particles_sublist

theorem Content.hasTag_of_mem_particles {c : Content} {e : Element} (h : e ∈ c.particles) :
    e.hasTag schemaUri "element" = true :=
  (List.mem_filter.1 (c.particles_sublist.subset h)).2

/-- Elements one behind the other are their own particles. -/
theorem Content.particles_ofList {l : List Element}
    (h : ∀ e ∈ l, e.hasTag schemaUri "element" = true) :
    (Content.ofList (l.map .inr)).particles = l := by
  induction l with
  | nil => rfl
  | cons first rest ih =>
    cases first with
    | mk start content =>
      simp only [List.map_cons, ofList, particles, h _ List.mem_cons_self, if_true,
        ih fun e he => h e (List.mem_cons_of_mem _ he)]
      rfl

/-! ## Models -/

/-- Whether an element is a group: a sequence, a choice or an all. -/
def Element.isGroup (e : Element) : Bool :=
  ["sequence", "choice", "all"].any (e.hasTag schemaUri ·)

mutual

/-- Whether an element is a group that holds elements and groups of this kind alone. -/
def Element.isModel : Element → Bool
  | .mk start content => Element.isGroup (.mk start content) && content.isModel

/-- Whether all in a content are elements and groups of this kind. -/
def Content.isModel : Content → Bool
  | .nil => true
  | .text _ rest => rest.isModel
  | .element child rest => (child.hasTag schemaUri "element" || child.isModel) && rest.isModel

end

/-- Whether a start tag is that of a complex type or of an extension, which hold models. -/
def StartTag.holdsModel (holder : StartTag) : Bool :=
  ["complexType", "extension"].any ((Element.mk holder .nil).hasTag schemaUri ·)

/-- Whether an element is the content model of its holder. -/
def Element.isModelIn (holder : StartTag) (e : Element) : Bool := holder.holdsModel && e.isModel

/-- The element with the content models in it dissolved, and without texts and lines. -/
def Element.ungrouped (e : Element) : Element := e.condensed isModelIn

theorem Element.isGroup_of_isModel {e : Element} (h : e.isModel = true) : e.isGroup = true := by
  cases e with
  | mk start content =>
    rw [isModel, Bool.and_eq_true] at h
    exact h.1

theorem Element.content_isModel {e : Element} (h : e.isModel = true) :
    e.content.isModel = true := by
  cases e with
  | mk start content =>
    rw [isModel, Bool.and_eq_true] at h
    exact h.2

theorem Element.hasTag_eq_false_of_isGroup {e : Element} (h : e.isGroup = true) (tag : String)
    (htag : tag ∉ ["sequence", "choice", "all"]) : e.hasTag schemaUri tag = false := by
  obtain ⟨group, hgroup, hhas⟩ := List.any_eq_true.1 h
  exact not_hasTag_of_ne hhas fun heq => htag (heq ▸ hgroup)

/-- A content that is a model comes to its particles. -/
theorem Content.condensed_of_isModel {holder : StartTag} (hholder : holder.holdsModel = true)
    (c : Content) (h : c.isModel = true) :
    c.condensed Element.isModelIn holder = c.particles.map Element.ungrouped := by
  match c with
  | .nil => rfl
  | .text _ rest => exact condensed_of_isModel hholder rest h
  | .element (.mk start content) rest =>
    rw [isModel, Bool.and_eq_true, Bool.or_eq_true] at h
    rw [condensed_element, particles, List.map_append, condensed_of_isModel hholder rest h.2]
    congr 1
    cases helement : Element.hasTag (.mk start content) schemaUri "element" with
    | true =>
      have hmodel : Element.isModel (.mk start content) = false := by
        cases hmodel : Element.isModel (.mk start content) with
        | false => rfl
        | true =>
          rw [Element.hasTag_eq_false_of_isGroup (Element.isGroup_of_isModel hmodel) _ (by decide)]
            at helement
          cases helement
      rw [Element.isModelIn, hmodel, Bool.and_false]
      rfl
    | false =>
      have hmodel := h.1.resolve_left (by rw [helement]; exact Bool.false_ne_true)
      have hpassage : Element.passageTags.any (Element.hasTag (.mk start content) schemaUri ·)
          = true := by
        obtain ⟨group, hgroup, hhas⟩ := List.any_eq_true.1 (Element.isGroup_of_isModel hmodel)
        exact List.any_eq_true.2 ⟨group, List.mem_append_right
          ["complexType", "complexContent", "extension", "restriction"] hgroup, hhas⟩
      rw [Element.isModelIn, hholder, hmodel, hpassage]
      exact condensed_of_isModel hholder content (Element.content_isModel hmodel)

/-! ## One sequence -/

/-- A sequence of elements in the place of a model. -/
def Element.sequence (model : StartTag) (particles : List Element) : Element :=
  .mk { uri := some schemaUri, name := "sequence", scope := model.scope, line := model.line }
    (.ofList (particles.map .inr))

mutual

/-- The element with each content model in it written as one sequence of its particles. -/
def Element.sequenced : Element → Element
  | .mk start content => .mk start (content.sequenced start)

/-- The content with each model in it written as one sequence of its particles. -/
def Content.sequenced (holder : StartTag) : Content → Content
  | .nil => .nil
  | .text chars rest => .text chars (rest.sequenced holder)
  | .element (.mk start content) rest =>
    .element
      (if Element.isModelIn holder (.mk start content) then .sequence start content.particles
        else .mk start (content.sequenced start))
      (rest.sequenced holder)

end

theorem Content.sequenced_element (holder : StartTag) (child : Element) (rest : Content) :
    (Content.element child rest).sequenced holder
      = .element
          (if child.isModelIn holder then .sequence child.start child.particles
            else child.sequenced)
          (rest.sequenced holder) := by
  cases child; rfl

theorem Element.start_sequenced (e : Element) : e.sequenced.start = e.start := by
  cases e; rfl

theorem Content.isModel_ofList {l : List Element}
    (h : ∀ e ∈ l, e.hasTag schemaUri "element" = true) :
    (Content.ofList (l.map .inr)).isModel = true := by
  induction l with
  | nil => rfl
  | cons first rest ih =>
    rw [List.map_cons, ofList, isModel, h _ List.mem_cons_self, Bool.true_or, Bool.true_and]
    exact ih fun e he => h e (List.mem_cons_of_mem _ he)

theorem Element.isModel_sequence (model : StartTag) {particles : List Element}
    (h : ∀ e ∈ particles, e.hasTag schemaUri "element" = true) :
    (sequence model particles).isModel = true := by
  rw [sequence, isModel, Content.isModel_ofList h, Bool.and_true]
  rfl

/-- Outside of holders of models there is no model to be written otherwise. -/
theorem Element.isModelIn_eq_false {holder : StartTag} (h : holder.holdsModel = false)
    (e : Element) : e.isModelIn holder = false := by
  rw [isModelIn, h, Bool.false_and]

/-- A group does not hold models: it is a part of one. -/
theorem Element.holdsModel_eq_false_of_isGroup {e : Element} (h : e.isGroup = true) :
    e.start.holdsModel = false := by
  have htag : ∀ tag, (Element.mk e.start .nil).hasTag schemaUri tag = e.hasTag schemaUri tag :=
    fun tag => by cases e; rfl
  simp only [StartTag.holdsModel, List.any_cons, List.any_nil, htag,
    hasTag_eq_false_of_isGroup h "complexType" (by decide),
    hasTag_eq_false_of_isGroup h "extension" (by decide), Bool.or_false]

mutual

theorem Element.isModel_sequenced (e : Element) : e.sequenced.isModel = e.isModel := by
  match e with
  | .mk start content =>
    have hgroup : Element.isGroup (.mk start (content.sequenced start))
        = Element.isGroup (.mk start content) := rfl
    rw [Element.sequenced, Element.isModel, Element.isModel, hgroup]
    cases hisGroup : Element.isGroup (.mk start content) with
    | false => rfl
    | true =>
      have hholder : start.holdsModel = false := Element.holdsModel_eq_false_of_isGroup hisGroup
      rw [Content.isModel_sequenced hholder content]

theorem Content.isModel_sequenced {holder : StartTag} (h : holder.holdsModel = false)
    (c : Content) : (c.sequenced holder).isModel = c.isModel := by
  match c with
  | .nil => rfl
  | .text _ rest => exact Content.isModel_sequenced h rest
  | .element child rest =>
    rw [Content.sequenced_element, Element.isModelIn_eq_false h, if_neg Bool.false_ne_true,
      Content.isModel, Content.isModel, Content.isModel_sequenced h rest,
      Element.isModel_sequenced child, Element.hasTag, Element.start_sequenced, Element.hasTag]

end

mutual

/-- **To write each model as one sequence changes nothing** but how elements are grouped. -/
theorem Element.ungrouped_sequenced (e : Element) : e.sequenced.ungrouped = e.ungrouped := by
  match e with
  | .mk start content =>
    rw [Element.sequenced, Element.ungrouped, Element.condensed,
      Content.condensed_sequenced start content, Element.ungrouped, Element.condensed]

theorem Content.condensed_sequenced (holder : StartTag) (c : Content) :
    (c.sequenced holder).condensed Element.isModelIn holder
      = c.condensed Element.isModelIn holder := by
  match c with
  | .nil => rfl
  | .text _ rest => exact Content.condensed_sequenced holder rest
  | .element child rest =>
    rw [Content.sequenced_element, Content.condensed_element, Content.condensed_element,
      Content.condensed_sequenced holder rest]
    congr 1
    cases hmodel : child.isModelIn holder with
    | true =>
      rw [Element.isModelIn, Bool.and_eq_true] at hmodel
      have hparticles : ∀ x ∈ child.particles, x.hasTag schemaUri "element" = true :=
        fun x => Content.hasTag_of_mem_particles
      rw [if_pos rfl, if_pos rfl, Element.isModelIn, hmodel.1,
        Element.isModel_sequence _ hparticles, Bool.and_true, if_pos rfl, Element.sequence,
        Element.content_mk,
        Content.condensed_of_isModel hmodel.1 _ (Content.isModel_ofList hparticles),
        Content.particles_ofList hparticles,
        Content.condensed_of_isModel hmodel.1 _ (Element.content_isModel hmodel.2)]
      rfl
    | false =>
      have hsequenced : child.sequenced.isModelIn holder = false := by
        rw [Element.isModelIn, Element.isModel_sequenced child]
        exact hmodel
      rw [if_neg Bool.false_ne_true, hsequenced, if_neg Bool.false_ne_true,
        if_neg Bool.false_ne_true]
      exact congrArg (fun x => [x]) (Element.ungrouped_sequenced child)

end

end WsdlTypes.Xml
