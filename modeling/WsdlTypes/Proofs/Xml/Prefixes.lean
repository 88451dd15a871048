import Mathlib.Logic.Equiv.Basic
import WsdlTypes.QName
/-!
# Documents under other prefixes

Prefixes are written in a document for nothing but the namespaces that they are bound to. A
renaming of prefixes (`PrefixRenaming`) goes through the scopes of a tree and through the values
that name something by a prefix (`Xml.Element.renamed`). Under it an element has the same tag,
line and text, the same attributes but for those values, and the elements inside it renamed; and
a name in such a value means the same as it did (`QName.expand_renamed`).
-/

namespace WsdlTypes

/-- Other names for prefixes: different ones for different ones, and the same for those whose
meaning does not depend on what they are bound to. -/
structure PrefixRenaming where
  rename : String → String
  injective : Function.Injective rename
  /-- A prefix ends at a colon, so there is none in it. -/
  plain {nsPrefix : String} (h : ':' ∉ nsPrefix.toList) : ':' ∉ (rename nsPrefix).toList
  fixed {nsPrefix : String} (h : nsPrefix ∈ ["", "xml", "xmlns", "tns"]) :
    rename nsPrefix = nsPrefix

namespace PrefixRenaming

variable (ρ : PrefixRenaming) {nsPrefix : String}

/-- Two prefixes exchanged, neither of which is kept. -/
def exchange (a b : String) (hkept : ∀ kept ∈ ["", "xml", "xmlns", "tns"], kept ≠ a ∧ kept ≠ b)
    (hplain : ':' ∉ a.toList ∧ ':' ∉ b.toList) : PrefixRenaming where
  rename := Equiv.swap a b
  injective := (Equiv.swap a b).injective
  plain {nsPrefix} h := by
    rw [Equiv.swap_apply_def]
    split
    · exact hplain.2
    · split
      · exact hplain.1
      · exact h
  fixed h := Equiv.swap_apply_of_ne_of_ne (hkept _ h).1 (hkept _ h).2

/-- A prefix that is kept is the name of no other. -/
theorem rename_eq_iff (kept : String) (h : kept ∈ ["", "xml", "xmlns", "tns"]) :
    ρ.rename nsPrefix = kept ↔ nsPrefix = kept := by
  constructor
  · intro heq
    exact ρ.injective (heq.trans (ρ.fixed h).symm)
  · rintro rfl
    exact ρ.fixed h

end PrefixRenaming

/-! ## Names with prefixes -/

/-- The scope with its prefixes renamed. -/
def Xml.Scope.renamed (ρ : PrefixRenaming) (scope : Xml.Scope) : Xml.Scope :=
  scope.map fun binding => (ρ.rename binding.1, binding.2)

/-- A prefix is bound to what it was bound to under its old name. -/
theorem Xml.Scope.uri?_renamed (ρ : PrefixRenaming) (scope : Xml.Scope) (nsPrefix : String) :
    (scope.renamed ρ).uri? (ρ.rename nsPrefix) = scope.uri? nsPrefix := by
  induction scope with
  | nil => rfl
  | cons binding rest ih =>
    obtain ⟨bound, uri⟩ := binding
    have hsame : (ρ.rename nsPrefix == ρ.rename bound) = (nsPrefix == bound) := by
      rw [Bool.eq_iff_iff, beq_iff_eq, beq_iff_eq, ρ.injective.eq_iff]
    simp only [renamed, uri?, List.map_cons, List.lookup_cons, hsame] at ih ⊢
    rw [ih]

namespace QName

variable (ρ : PrefixRenaming)

/-- The name with its prefix renamed. -/
def renamed (qname : String) : String :=
  match Text.splitOnce? ':' qname.toList with
  | some (front, back) => ρ.rename (String.ofList front) ++ ":" ++ String.ofList back
  | none => qname

/-- The prefix is renamed, and the rest of the name stays. -/
theorem split_renamed (qname : String) :
    split (renamed ρ qname) = (ρ.rename (split qname).1, (split qname).2) := by
  cases hsplit : Text.splitOnce? ':' qname.toList with
  | none => simp only [split, renamed, hsplit, ρ.fixed (List.mem_cons_self)]
  | some parts =>
    obtain ⟨front, back⟩ := parts
    have hfront : ':' ∉ (String.ofList front).toList := by
      rw [String.toList_ofList]
      exact (Text.splitOnce?_eq_some_iff.1 hsplit).2
    have hrenamed : Text.splitOnce? ':' (renamed ρ qname).toList
        = some ((ρ.rename (String.ofList front)).toList, back) := by
      refine Text.splitOnce?_eq_some_iff.2 ⟨?_, ρ.plain hfront⟩
      simp only [renamed, hsplit, String.toList_append, String.toList_ofList]
      rw [List.append_assoc]
      rfl
    simp only [split, hrenamed, hsplit, String.ofList_toList]

theorem uri?_renamed (scope : Xml.Scope) (nsPrefix : String) :
    uri? (scope.renamed ρ) (ρ.rename nsPrefix) = uri? scope nsPrefix := by
  unfold uri?
  simp only [ρ.rename_eq_iff "xml" (by decide), scope.uri?_renamed ρ]

/-- **A name means the same under other prefixes**, or nothing, as it did. -/
theorem expand_renamed (scope : Xml.Scope) (target qname : String) :
    expand (scope.renamed ρ) target (renamed ρ qname)
      = (expand scope target qname).mapError fun cause => ⟨ρ.rename cause.nsPrefix⟩ := by
  unfold expand
  rw [split_renamed]
  rcases split qname with ⟨nsPrefix, name⟩
  simp only [uri?_renamed]
  cases uri? scope nsPrefix with
  | some uri => rfl
  | none =>
    simp only [ρ.rename_eq_iff "" (by decide), ρ.rename_eq_iff "tns" (by decide)]
    split <;> rfl

/-- The attributes whose values name something by a prefix. -/
def attributes : List String := ["type", "base", "ref", "itemType", "element", "message"]

/-- The value of an attribute with its prefix renamed where it names something by one. -/
def renamedIn (holder value : String) : String :=
  if holder ∈ attributes then renamed ρ value else value

end QName

/-! ## Trees -/

namespace Xml

/-- The attribute with the prefix in its value renamed, where its value names something. -/
def Attribute.renamed (ρ : PrefixRenaming) (a : Attribute) : Attribute :=
  if a.uri = none then { a with value := QName.renamedIn ρ a.name a.value } else a

/-- The start tag with its prefixes renamed. -/
def StartTag.renamed (ρ : PrefixRenaming) (start : StartTag) : StartTag :=
  { start with
    attributes := start.attributes.map (Attribute.renamed ρ)
    scope := start.scope.renamed ρ }

mutual

/-- The element with all prefixes in it renamed. -/
def Element.renamed (ρ : PrefixRenaming) : Element → Element
  | .mk start content => .mk (start.renamed ρ) (content.renamed ρ)

/-- The content with all prefixes in it renamed. -/
def Content.renamed (ρ : PrefixRenaming) : Content → Content
  | .nil => .nil
  | .text chars rest => .text chars (rest.renamed ρ)
  | .element child rest => .element (child.renamed ρ) (rest.renamed ρ)

end

variable (ρ : PrefixRenaming)

theorem Content.elements_renamed (c : Content) :
    (c.renamed ρ).elements = c.elements.map (Element.renamed ρ) := by
  cases c with
  | nil => rfl
  | text _ rest => exact elements_renamed rest
  | element child rest =>
    simp only [renamed, elements, List.map_cons, elements_renamed rest]

mutual

theorem Element.all_renamed (e : Element) :
    (e.renamed ρ).all = e.all.map (Element.renamed ρ) := by
  cases e with
  | mk start content =>
    simp only [Element.renamed, Element.all, List.map_cons, Content.all_renamed content]

theorem Content.all_renamed (c : Content) :
    (c.renamed ρ).all = c.all.map (Element.renamed ρ) := by
  cases c with
  | nil => rfl
  | text _ rest => exact Content.all_renamed rest
  | element child rest =>
    simp only [Content.renamed, Content.all, List.map_append, Element.all_renamed child,
      Content.all_renamed rest]

end

mutual

theorem Element.allText_renamed (e : Element) : (e.renamed ρ).allText = e.allText := by
  cases e with
  | mk start content => exact Content.allText_renamed content

theorem Content.allText_renamed (c : Content) : (c.renamed ρ).allText = c.allText := by
  cases c with
  | nil => rfl
  | text _ rest =>
    simp only [Content.renamed, Content.allText, Content.allText_renamed rest]
  | element child rest =>
    simp only [Content.renamed, Content.allText, Element.allText_renamed child,
      Content.allText_renamed rest]

end

namespace Element

variable (e : Element) (uri name : String)

@[simp] theorem start_renamed : (e.renamed ρ).start = e.start.renamed ρ := by
  cases e; rfl

@[simp] theorem content_renamed : (e.renamed ρ).content = e.content.renamed ρ := by
  cases e; rfl

@[simp] theorem line_renamed : (e.renamed ρ).line = e.line := by
  simp only [line, start_renamed, StartTag.renamed]

@[simp] theorem name_renamed : (e.renamed ρ).name = e.name := by
  simp only [Element.name, start_renamed, StartTag.renamed]

@[simp] theorem scope_renamed : (e.renamed ρ).scope = e.scope.renamed ρ := by
  simp only [scope, start_renamed, StartTag.renamed]

@[simp] theorem hasTag_renamed : (e.renamed ρ).hasTag uri name = e.hasTag uri name := by
  simp only [hasTag, start_renamed, StartTag.renamed]

/-- Values are the same but for prefixes. -/
theorem attribute?_renamed :
    (e.renamed ρ).attribute? name = (e.attribute? name).map (QName.renamedIn ρ name) := by
  have hkeep : ((fun a : Attribute => decide (a.uri = none) && decide (a.name = name))
      ∘ Attribute.renamed ρ) = fun a => decide (a.uri = none) && decide (a.name = name) := by
    funext a
    simp only [Function.comp_apply, Attribute.renamed]
    split <;> rfl
  simp only [attribute?, start_renamed, StartTag.renamed, List.find?_map, Option.map_map, hkeep]
  cases hfound : e.start.attributes.find? fun a => decide (a.uri = none) && decide (a.name = name)
    with
  | none => rfl
  | some a =>
    have hboth := List.find?_some hfound
    simp only [Bool.and_eq_true, decide_eq_true_eq] at hboth
    simp only [Option.map_some, Function.comp_apply, Attribute.renamed, if_pos hboth.1, hboth.2]

theorem attribute?_renamed_of_mem (h : name ∈ QName.attributes) :
    (e.renamed ρ).attribute? name = (e.attribute? name).map (QName.renamed ρ) := by
  rw [attribute?_renamed]
  congr 1
  funext value
  exact if_pos h

theorem attribute?_renamed_of_not_mem (h : name ∉ QName.attributes) :
    (e.renamed ρ).attribute? name = e.attribute? name := by
  rw [attribute?_renamed]
  have hid : QName.renamedIn ρ name = id := by
    funext value
    exact if_neg h
  rw [hid, Option.map_id, id]

theorem attributeD_renamed_of_not_mem (h : name ∉ QName.attributes) :
    (e.renamed ρ).attributeD name = e.attributeD name := by
  rw [attributeD, attributeD, attribute?_renamed_of_not_mem ρ e name h]

@[simp] theorem elements_renamed :
    (e.renamed ρ).elements = e.elements.map (Element.renamed ρ) := by
  simp only [elements, content_renamed, Content.elements_renamed]

/-- Elements are picked by what they are and not by how it is written. -/
theorem hasTag_comp_renamed :
    (fun e : Element => e.hasTag uri name) ∘ Element.renamed ρ = fun e => e.hasTag uri name := by
  funext e
  exact hasTag_renamed ρ e uri name

@[simp] theorem children_renamed :
    (e.renamed ρ).children uri name = (e.children uri name).map (Element.renamed ρ) := by
  simp only [children, elements_renamed, List.filter_map, hasTag_comp_renamed]

@[simp] theorem child?_renamed :
    (e.renamed ρ).child? uri name = (e.child? uri name).map (Element.renamed ρ) := by
  simp only [child?, elements_renamed, List.find?_map, hasTag_comp_renamed]

@[simp] theorem descendants_renamed :
    (e.renamed ρ).descendants uri name = (e.descendants uri name).map (Element.renamed ρ) := by
  simp only [descendants, all_renamed, List.filter_map, hasTag_comp_renamed]

@[simp] theorem descendant?_renamed :
    (e.renamed ρ).descendant? uri name = (e.descendant? uri name).map (Element.renamed ρ) := by
  simp only [descendant?, all_renamed, List.find?_map, hasTag_comp_renamed]

@[simp] theorem inside_renamed :
    (e.renamed ρ).inside uri name = (e.inside uri name).map (Element.renamed ρ) := by
  simp only [inside, content_renamed, Content.all_renamed, List.filter_map, hasTag_comp_renamed]

end Element

end Xml

end WsdlTypes
