import WsdlTypes.Proofs.Operations
import WsdlTypes.Proofs.Walk.Declarations
/-!
# Parts of messages

The messages of an operation are to wrap one element each: to have one part, which names an element
(`Service.Wraps`). Of a message, though, the first part alone is read (`Service.Opens`), so the
operations and what is reported of them are the same with messages that are cut off behind it
(`Service.operationsOf_firstParts`). The precondition is kept where no message has more parts;
where one has, they go unnoticed (`Service.read_by_first_parts`).
-/

namespace WsdlTypes

/-! ## Messages cut off behind the first part -/

namespace Xml

variable {uri name : String} {f : Element → Element}

/-- The content without the elements of a tag one level below. -/
def Content.without (uri name : String) : Content → Content
  | .nil => .nil
  | .text chars rest => .text chars (rest.without uri name)
  | .element child rest =>
    if child.hasTag uri name then rest.without uri name
    else .element child (rest.without uri name)

/-- The content with only the first of the elements of a tag one level below. -/
def Content.firstOf (uri name : String) : Content → Content
  | .nil => .nil
  | .text chars rest => .text chars (rest.firstOf uri name)
  | .element child rest =>
    if child.hasTag uri name then .element child (rest.without uri name)
    else .element child (rest.firstOf uri name)

/-- The content with other elements in place of those one level below. -/
def Content.mapElements (f : Element → Element) : Content → Content
  | .nil => .nil
  | .text chars rest => .text chars (rest.mapElements f)
  | .element child rest => .element (f child) (rest.mapElements f)

theorem Content.filter_elements_without (c : Content) :
    (c.without uri name).elements.filter (·.hasTag uri name) = [] := by
  cases c with
  | nil => rfl
  | text _ rest => exact filter_elements_without rest
  | element child rest =>
    rw [without]
    split
    · exact filter_elements_without rest
    · rename_i htag
      rw [elements, List.filter_cons, if_neg htag, filter_elements_without rest]

theorem Content.filter_elements_firstOf (c : Content) :
    (c.firstOf uri name).elements.filter (·.hasTag uri name)
      = (c.elements.filter (·.hasTag uri name)).take 1 := by
  cases c with
  | nil => rfl
  | text _ rest => exact filter_elements_firstOf rest
  | element child rest =>
    rw [firstOf]
    split
    · rename_i htag
      rw [elements, elements, List.filter_cons, List.filter_cons, if_pos htag, if_pos htag,
        filter_elements_without, List.take_succ_cons, List.take_zero]
    · rename_i htag
      rw [elements, elements, List.filter_cons, List.filter_cons, if_neg htag, if_neg htag,
        filter_elements_firstOf rest]

theorem Content.elements_mapElements (c : Content) :
    (c.mapElements f).elements = c.elements.map f := by
  cases c with
  | nil => rfl
  | text _ rest => exact elements_mapElements rest
  | element child rest =>
    rw [mapElements, elements, elements, List.map_cons, elements_mapElements rest]

end Xml

/-- A message with its first part only, and any other element as it is. -/
def Xml.Element.withFirstPart (e : Xml.Element) : Xml.Element :=
  if e.hasTag wsdlUri "message" then .mk e.start (e.content.firstOf wsdlUri "part") else e

/-- The service description with the first parts of its messages only. -/
def Definitions.firstParts (definitions : Definitions) : Definitions :=
  { definitions with
    element := .mk definitions.element.start
      (definitions.element.content.mapElements Xml.Element.withFirstPart) }

/-- The catalog with the first parts of all messages only. -/
def Catalog.firstParts (catalog : Catalog) : Catalog :=
  { catalog with definitions := catalog.definitions.map Definitions.firstParts }

namespace Xml.Element

variable (e : Xml.Element) (uri name : String)

@[simp] theorem start_withFirstPart : e.withFirstPart.start = e.start := by
  unfold withFirstPart
  split <;> rfl

@[simp] theorem hasTag_withFirstPart : e.withFirstPart.hasTag uri name = e.hasTag uri name := by
  rw [hasTag, start_withFirstPart, hasTag]

@[simp] theorem attribute?_withFirstPart :
    e.withFirstPart.attribute? name = e.attribute? name := by
  rw [attribute?, start_withFirstPart, attribute?]

variable {e}

theorem withFirstPart_of_ne (h : e.hasTag wsdlUri "message" = false) : e.withFirstPart = e := by
  rw [withFirstPart, h, if_neg Bool.false_ne_true]

/-- The parts of a message are the first one. -/
theorem children_withFirstPart (h : e.hasTag wsdlUri "message" = true) :
    e.withFirstPart.children wsdlUri "part" = (e.children wsdlUri "part").take 1 := by
  rw [withFirstPart, if_pos h]
  exact Content.filter_elements_firstOf e.content

variable (e) in
theorem child?_withFirstPart :
    e.withFirstPart.child? wsdlUri "part" = e.child? wsdlUri "part" := by
  rw [child?_eq_head?, child?_eq_head?]
  by_cases h : e.hasTag wsdlUri "message" = true
  · rw [children_withFirstPart h, List.head?_take, if_neg Nat.one_ne_zero]
  · rw [withFirstPart_of_ne (Bool.not_eq_true _ ▸ h)]

end Xml.Element

namespace Definitions

variable (definitions : Definitions)

theorem children_firstParts (tag : String) :
    definitions.firstParts.element.children wsdlUri tag
      = (definitions.element.children wsdlUri tag).map Xml.Element.withFirstPart := by
  have helements : definitions.firstParts.element.elements
      = definitions.element.elements.map Xml.Element.withFirstPart :=
    Xml.Content.elements_mapElements _
  rw [Xml.Element.children, helements, List.filter_map, Xml.Element.children]
  congr 2
  funext e
  exact e.hasTag_withFirstPart wsdlUri tag

theorem message?_firstParts (name : String) :
    definitions.firstParts.message? name
      = (definitions.message? name).map Xml.Element.withFirstPart := by
  rw [message?, children_firstParts, List.find?_map, message?]
  congr 2
  funext e
  rw [Function.comp_apply, Xml.Element.attribute?_withFirstPart]

end Definitions

theorem Catalog.message?_firstParts (catalog : Catalog) (key : ExpandedName) :
    catalog.firstParts.message? key
      = (catalog.message? key).map fun found => (found.1.firstParts, found.2.withFirstPart) := by
  rw [message?, message?, firstParts, List.findSome?_map, List.map_findSome?]
  congr 1
  funext definitions
  show (if definitions.target = key.uri then _ else none) = Option.map _ (if _ then _ else none)
  split
  · rw [Definitions.message?_firstParts, Option.map_map, Option.map_map]
    rfl
  · rfl

theorem Catalog.definitionsOf_firstParts (catalog : Catalog) (documents : List Nat) :
    catalog.firstParts.definitionsOf documents
      = (catalog.definitionsOf documents).map Definitions.firstParts := by
  rw [definitionsOf, definitionsOf, List.map_flatMap]
  congr 1
  funext id
  exact List.filter_map

namespace Service

variable {naming : Naming} {catalog : Catalog} {types : TypeMap} {definitions : Definitions}
variable {e body : Xml.Element} {declaring : Definitions} {op : Operation} {direction : Direction}

/-! ## What is read of messages -/

/-- The precondition: a message has one part, which names an element. -/
def Wraps (body : Xml.Element) : Prop :=
  ∃ part element, body.children wsdlUri "part" = [part] ∧ part.attribute? "element" = some element

/-- The first part of a message names an element. -/
def Opens (body : Xml.Element) : Prop :=
  ∃ part rest element, body.children wsdlUri "part" = part :: rest ∧
    part.attribute? "element" = some element

/-- The message that an element of a service description names for a direction, with the service
description that declares it. -/
inductive Names (catalog : Catalog) (definitions : Definitions) (e : Xml.Element)
    (direction : Direction) (declaring : Definitions) (body : Xml.Element) : Prop where
  | first {reference : Xml.Element} {written : String} {message : ExpandedName}
      {front back : List (ExpandedName × Definitions × Xml.Element)}
      (hreference : (e.children wsdlUri direction.label).head? = some reference)
      (hwritten : reference.attribute? "message" = some written)
      (hmessage : QName.expand reference.scope definitions.target written = .ok message)
      (hdeclared : catalog.messages = front ++ (message, declaring, body) :: back)
      (hfirst : ∀ other ∈ front, other.1 ≠ message)

/-! ## The same operations -/

theorem messageType_firstParts (message : ExpandedName) :
    messageType catalog.firstParts types message = messageType catalog types message := by
  unfold messageType
  rw [Catalog.message?_firstParts]
  cases catalog.message? message with
  | none => rfl
  | some found =>
    simp only [Option.map_some, Xml.Element.child?_withFirstPart]
    rfl

theorem operation_firstParts :
    operation naming catalog.firstParts types definitions.firstParts e
      = operation naming catalog types definitions e := by
  have hdirection : ∀ name direction,
      directionType catalog.firstParts types definitions.firstParts e name direction
        = directionType catalog types definitions e name direction := fun name direction => by
    unfold directionType
    simp only [messageType_firstParts]
    rfl
  unfold operation
  simp only [hdirection]

/-- What declares an operation is no message. -/
theorem operationElements_firstParts (definitions : Definitions) :
    operationElements definitions.firstParts = operationElements definitions := by
  rw [operationElements, Definitions.children_firstParts, List.flatMap_map, operationElements]
  refine List.flatMap_congr fun port hport => ?_
  have htag : port.hasTag wsdlUri "portType" = true := (List.mem_filter.1 hport).2
  rw [Xml.Element.withFirstPart_of_ne (Xml.Element.not_hasTag_of_ne htag (by decide))]

theorem declarations_firstParts (l : List Definitions) :
    declarations (l.map Definitions.firstParts)
      = (declarations l).map fun declared => (declared.1.firstParts, declared.2) := by
  rw [declarations, List.flatMap_map, declarations, List.map_flatMap]
  refine List.flatMap_congr fun definitions _ => ?_
  rw [operationElements_firstParts, List.map_map]
  rfl

/-- **Parts behind the first one do not count**: the operations and what is reported of them are the
same without. -/
theorem operationsOf_firstParts (documents : List Nat) :
    operationsOf naming catalog.firstParts types documents
      = operationsOf naming catalog types documents := by
  have hresolved : ∀ declared : Definitions × Xml.Element,
      resolved? naming catalog.firstParts types (declared.1.firstParts, declared.2)
        = resolved? naming catalog types declared := fun declared => by
    rw [resolved?, operation_firstParts, resolved?]
  have hunresolved : ∀ declared : Definitions × Xml.Element,
      unresolved? naming catalog.firstParts types (declared.1.firstParts, declared.2)
        = unresolved? naming catalog types declared := fun declared => by
    rw [unresolved?, operation_firstParts, unresolved?]
    rfl
  refine Report.ext ?_ ?_
  · rw [value_operationsOf, value_operationsOf, Catalog.definitionsOf_firstParts,
      declarations_firstParts, List.filterMap_map]
    exact List.filterMap_congr fun declared _ => hresolved declared
  · rw [findings_operationsOf, findings_operationsOf, Catalog.definitionsOf_firstParts,
      declarations_firstParts, List.filterMap_map]
    exact List.filterMap_congr fun declared _ => hunresolved declared

/-! ## The messages of an operation -/

/-- **Only one message is named.** -/
theorem Names.unique {declaring' : Definitions} {body' : Xml.Element}
    (h : Names catalog definitions e direction declaring body)
    (h' : Names catalog definitions e direction declaring' body') :
    declaring = declaring' ∧ body = body' := by
  obtain ⟨hreference, hwritten, hmessage, hdeclared, hfirst⟩ := h
  obtain ⟨hreference', hwritten', hmessage', hdeclared', hfirst'⟩ := h'
  cases hreference.symm.trans hreference'
  cases hwritten.symm.trans hwritten'
  cases hmessage.symm.trans hmessage'
  have hbody := Catalog.message?_eq_some_iff.2 ⟨_, _, hdeclared, hfirst⟩
  have hbody' := Catalog.message?_eq_some_iff.2 ⟨_, _, hdeclared', hfirst'⟩
  cases hbody.symm.trans hbody'
  exact ⟨rfl, rfl⟩

/-- The message that conveys a type opens with a part for an element. -/
theorem Conveys.exists_names {type : TypeDescriptor}
    (h : Conveys catalog types definitions e direction type) :
    ∃ declaring body, Names catalog definitions e direction declaring body ∧ Opens body := by
  obtain ⟨hreference, hwritten, hmessage, hdeclared, hfirst, hpart, helement, -, -⟩ := h
  obtain ⟨rest, hparts⟩ := List.head?_eq_some_iff.1 hpart
  exact ⟨_, _, .first hreference hwritten hmessage hdeclared hfirst, _, rest, _, hparts, helement⟩

/-- Both messages of an operation do. -/
theorem Resolves.exists_names (h : Resolves naming catalog types definitions e op)
    (direction : Direction) :
    ∃ declaring body, Names catalog definitions e direction declaring body ∧ Opens body := by
  obtain ⟨input, output, _, -, hinput, houtput, -⟩ := h
  cases direction with
  | input => exact hinput.exists_names
  | output => exact houtput.exists_names

/-- A message that opens with a part for an element wraps this if there is no other part. -/
theorem Opens.wraps_iff (h : Opens body) :
    Wraps body ↔ (body.children wsdlUri "part").length = 1 := by
  obtain ⟨part, rest, element, hparts, helement⟩ := h
  rw [Wraps, hparts]
  constructor
  · rintro ⟨_, _, heq, -⟩
    rw [heq, List.length_singleton]
  · intro hlength
    obtain rfl : rest = [] := by simpa using hlength
    exact ⟨part, element, rfl, helement⟩

/-- **How far the precondition is enforced.** The operations of some documents are those that their
elements resolve to. In both directions of each the message that is named has a first part, which
names an element; where that is all, the message wraps the element. An element that names a message
which does not open so resolves to no operation, and is reported. Whatever follows the first part of
a message makes no difference: the operations and the reports are the same without. -/
theorem read_by_first_parts (naming : Naming) (catalog : Catalog) (types : TypeMap)
    (documents : List Nat) :
    let declared := declarations (catalog.definitionsOf documents)
    let report := operationsOf naming catalog types documents
    (∀ op, op ∈ report.value ↔ ∃ definitions e, (definitions, e) ∈ declared ∧
        Resolves naming catalog types definitions e op) ∧
      (∀ definitions e op, Resolves naming catalog types definitions e op →
        ∀ direction, ∃ declaring body, Names catalog definitions e direction declaring body ∧
          Opens body ∧ (Wraps body ↔ (body.children wsdlUri "part").length = 1)) ∧
      (∀ definitions e, (definitions, e) ∈ declared → ∀ direction declaring body,
        Names catalog definitions e direction declaring body → ¬Opens body →
          (∀ op, ¬Resolves naming catalog types definitions e op) ∧
            ∃ cause, ⟨.unresolvedOperation cause, definitions.location, e.line⟩
              ∈ report.findings) ∧
      operationsOf naming catalog.firstParts types documents = report := by
  refine ⟨fun op => ?_, fun definitions e op hresolves direction => ?_,
    fun definitions e hmem direction declaring body hnames hopens => ?_,
    operationsOf_firstParts documents⟩
  · rw [value_operationsOf, List.mem_filterMap, Prod.exists]
    simp only [resolved?_eq_some_iff]
  · obtain ⟨declaring, body, hnames, hopens⟩ := hresolves.exists_names direction
    exact ⟨declaring, body, hnames, hopens, hopens.wraps_iff⟩
  · have hnone : ∀ op, ¬Resolves naming catalog types definitions e op := fun op hresolves => by
      obtain ⟨_, _, hnames', hopens'⟩ := hresolves.exists_names direction
      exact hopens ((hnames.unique hnames').2 ▸ hopens')
    refine ⟨hnone, ?_⟩
    rw [findings_operationsOf]
    cases hop : operation naming catalog types definitions e with
    | ok op => exact absurd (operation_eq_ok_iff_resolves.1 hop) (hnone op)
    | error cause =>
      refine ⟨cause, List.mem_filterMap.2 ⟨(definitions, e), hmem, ?_⟩⟩
      rw [unresolved?, hop]

/-- An element of a service description. -/
def elementOf (tag : String) (attributes : List (String × String)) (content : List Xml.Element) :
    Xml.Element :=
  .mk
    { uri := some wsdlUri
      name := tag
      attributes := attributes.map fun (name, value) => ⟨none, name, value⟩ }
    (.ofList (content.map .inr))

/-- A message with two parts. -/
def twoParts : Xml.Element :=
  elementOf "message" [("name", "In")]
    [elementOf "part" [("name", "p"), ("element", "Ask")] [],
      elementOf "part" [("name", "q"), ("type", "Ask")] []]

/-- An operation that takes it. -/
def askOperation : Xml.Element :=
  elementOf "operation" [("name", "Do")]
    [elementOf "input" [("message", "In")] [], elementOf "output" [("message", "Out")] []]

/-- A service description with this operation. -/
def askService : Definitions where
  document := 0
  location := "a"
  element := elementOf "definitions" [] [twoParts,
    elementOf "message" [("name", "Out")] [elementOf "part" [("element", "Ask")] []],
    elementOf "portType" [] [askOperation]]
  target := ""

/-- **A second part goes unnoticed.** The operation is resolved, nothing is reported, and the
message that it takes does not wrap one element. -/
theorem second_part_is_ignored :
    let types : TypeMap :=
      SortedMap.empty.insert ⟨"", "Ask"⟩ (TypeDescriptor.ofKey ⟨"", "Ask"⟩ "" "a")
    let report := operationsOf ⟨.flat, "\\"⟩ ⟨[], [askService]⟩ types [0]
    (report.value.map Operation.name = ["Do"] ∧ report.findings = []) ∧
      declarations ((⟨[], [askService]⟩ : Catalog).definitionsOf [0])
        = [(askService, askOperation)] ∧
      Names ⟨[], [askService]⟩ askService askOperation .input askService twoParts ∧
      ¬Wraps twoParts := by
  have hfound : (⟨[], [askService]⟩ : Catalog).message? ⟨"", "In"⟩ = some (askService, twoParts) :=
    rfl
  obtain ⟨front, back, hdeclared, hfirst⟩ := Catalog.message?_eq_some_iff.1 hfound
  refine ⟨by decide +kernel, rfl, .first rfl rfl rfl hdeclared hfirst, ?_⟩
  rintro ⟨part, element, hparts, -⟩
  have htwo : (twoParts.children wsdlUri "part").length = 2 := rfl
  rw [hparts] at htwo
  cases htwo

end Service

end WsdlTypes
