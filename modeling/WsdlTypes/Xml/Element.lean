/-!
# Elements

A document is the tree of its elements and texts. An element keeps what its start tag
says once prefixes are expanded: the namespace and local name, the attributes, the
prefixes in scope, and the line it stands on. Prefixes as written, comments and
instructions are gone.

Elements are asked for by namespace and local name, among the children (`children`) or
the element itself and everything below it in document order (`descendants`).
-/

namespace WsdlTypes.Xml

/-- The namespace of the prefix `xml`, which is bound everywhere. -/
def xmlUri : String := "http://www.w3.org/XML/1998/namespace"

/-- The namespace declarations in scope: prefixes with their URIs, nearest first. The empty
prefix stands for names without one. -/
abbrev Scope := List (String × String)

/-- The URI that a prefix is bound to. -/
def Scope.uri? (scope : Scope) (nsPrefix : String) : Option String := scope.lookup nsPrefix

/-- An attribute; one without a prefix has no namespace. -/
structure Attribute where
  uri : Option String
  name : String
  value : String
deriving DecidableEq, Repr

/-- What a start tag says. -/
structure StartTag where
  uri : Option String
  name : String
  attributes : List Attribute := []
  scope : Scope := []
  line : Nat := 1
deriving DecidableEq, Repr, Inhabited

mutual

/-- An element: its start tag and what comes before its end tag. -/
inductive Element where
  | mk (start : StartTag) (content : Content)

/-- Texts and elements in order. -/
inductive Content where
  | nil
  | text (chars : String) (rest : Content)
  | element (child : Element) (rest : Content)

end

instance : Inhabited Content := ⟨.nil⟩
instance : Inhabited Element := ⟨.mk default .nil⟩

/-- The elements among texts and elements. -/
def Content.elements : Content → List Element
  | .nil => []
  | .text _ rest => rest.elements
  | .element child rest => child :: rest.elements

/-- Texts and elements, one behind the other. -/
def Content.ofList : List (String ⊕ Element) → Content
  | [] => .nil
  | .inl chars :: rest => .text chars (ofList rest)
  | .inr child :: rest => .element child (ofList rest)

namespace Element

/-- What the start tag says. -/
def start : Element → StartTag
  | mk start _ => start

/-- What comes between start tag and end tag. -/
def content : Element → Content
  | mk _ content => content

/-- The local name. -/
def name (e : Element) : String := e.start.name

/-- The line of the start tag. -/
def line (e : Element) : Nat := e.start.line

/-- The prefixes in scope. -/
def scope (e : Element) : Scope := e.start.scope

/-- Whether the element lies in a namespace and has a local name. -/
def hasTag (e : Element) (uri name : String) : Bool :=
  e.start.uri == some uri && e.start.name == name

/-- The value of an attribute without a prefix. -/
def attribute? (e : Element) (name : String) : Option String :=
  (e.start.attributes.find? fun a => a.uri = none && a.name = name).map Attribute.value

/-- The value of an attribute, empty where it is missing. -/
def attributeD (e : Element) (name : String) : String := (e.attribute? name).getD ""

/-- The elements one level below. -/
def elements (e : Element) : List Element := e.content.elements

/-- The elements of a tag one level below. -/
def children (e : Element) (uri name : String) : List Element :=
  e.elements.filter (·.hasTag uri name)

/-- The first element of a tag one level below. -/
def child? (e : Element) (uri name : String) : Option Element :=
  e.elements.find? (·.hasTag uri name)

end Element

mutual

/-- The element and every element below it, in document order. -/
def Element.all : Element → List Element
  | .mk start content => .mk start content :: content.all

/-- Every element of a content, at any depth, in document order. -/
def Content.all : Content → List Element
  | .nil => []
  | .text _ rest => rest.all
  | .element child rest => child.all ++ rest.all

end

mutual

/-- All text below the element, in document order. -/
def Element.allText : Element → String
  | .mk _ content => content.allText

/-- All text of a content, at any depth, in document order. -/
def Content.allText : Content → String
  | .nil => ""
  | .text chars rest => chars ++ rest.allText
  | .element child rest => child.allText ++ rest.allText

end

namespace Element

/-- The elements of a tag among the element itself and everything below it, in document
order. -/
def descendants (e : Element) (uri name : String) : List Element :=
  e.all.filter (·.hasTag uri name)

/-- The elements of a tag inside the element, in document order. -/
def inside (e : Element) (uri name : String) : List Element :=
  e.content.all.filter (·.hasTag uri name)

/-- The first element of a tag, the element itself included. -/
def descendant? (e : Element) (uri name : String) : Option Element :=
  e.all.find? (·.hasTag uri name)

/-- The element reached by going to the child of each index in turn. -/
def at? (e : Element) : List Nat → Option Element
  | [] => some e
  | i :: path =>
    match e.elements[i]? with
    | some child => child.at? path
    | none => none

@[simp] theorem start_mk (start : StartTag) (content : Content) :
    (mk start content).start = start := rfl

@[simp] theorem content_mk (start : StartTag) (content : Content) :
    (mk start content).content = content := rfl

theorem all_eq (e : Element) : e.all = e :: e.content.all := by
  cases e; rfl

theorem self_mem_all (e : Element) : e ∈ e.all := by
  rw [all_eq]; exact List.mem_cons_self

theorem hasTag_of_mem_children {parent e : Element} {uri name : String}
    (h : e ∈ parent.children uri name) : e.hasTag uri name = true :=
  (List.mem_filter.1 h).2

/-- An element has one tag. -/
theorem not_hasTag_of_ne {e : Element} {uri name name' : String}
    (h : e.hasTag uri name = true) (hne : name ≠ name') : e.hasTag uri name' = false := by
  simp only [hasTag, Bool.and_eq_true, beq_iff_eq] at h
  simp only [hasTag, Bool.and_eq_false_iff, beq_eq_false_iff_ne]
  exact Or.inr fun heq => hne (h.2.symm.trans heq)

theorem child?_eq_head? (e : Element) (uri name : String) :
    e.child? uri name = (e.children uri name).head? :=
  (List.head?_filter ..).symm

theorem descendant?_eq_head? (e : Element) (uri name : String) :
    e.descendant? uri name = (e.descendants uri name).head? :=
  (List.head?_filter ..).symm

end Element

/-- The elements one level below are among those at any depth. -/
theorem Content.elements_subset_all (c : Content) : c.elements ⊆ c.all := by
  match c with
  | .nil => exact List.Subset.refl _
  | .text _ rest => exact elements_subset_all rest
  | .element child rest =>
    intro e he
    rcases List.mem_cons.1 he with rfl | he
    · exact List.mem_append_left _ (Element.self_mem_all e)
    · exact List.mem_append_right _ (elements_subset_all rest he)

theorem Content.sizeOf_lt_of_mem_elements {c : Content} {e : Element} (h : e ∈ c.elements) :
    sizeOf e < sizeOf c := by
  match c with
  | .nil => cases h
  | .text _ rest =>
    have := sizeOf_lt_of_mem_elements (c := rest) h
    simp only [Content.text.sizeOf_spec]
    omega
  | .element child rest =>
    simp only [Content.element.sizeOf_spec]
    rcases List.mem_cons.1 h with rfl | h
    · omega
    · have := sizeOf_lt_of_mem_elements (c := rest) h
      omega

/-- An element one level below is smaller. -/
theorem Element.sizeOf_lt_of_mem_elements {e child : Element} (h : child ∈ e.elements) :
    sizeOf child < sizeOf e := by
  cases e with
  | mk start content =>
    have := Content.sizeOf_lt_of_mem_elements (c := content) h
    simp only [Element.mk.sizeOf_spec]
    omega

end WsdlTypes.Xml
