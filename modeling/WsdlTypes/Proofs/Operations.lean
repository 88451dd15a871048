import WsdlTypes.Proofs.Parameters
import WsdlTypes.Proofs.Service
/-!
# Which operations there are

An operation is resolved step by step, over two messages, the elements that these wrap, their types
and the lineage of one of them. Here all that it takes stands side by side: what a message conveys
in one direction (`Conveys`) and what an operation comes from (`Resolves`), where the messages of
all service descriptions stand in one list (`Catalog.messages`). Each element that declares an
operation resolves or is reported, by itself (`resolved_or_reported`).
-/

namespace WsdlTypes

/-! ## Messages by name -/

/-- The messages of a service description that have a name, each with its expanded name. -/
def Definitions.messages (definitions : Definitions) :
    List (ExpandedName × Definitions × Xml.Element) :=
  (definitions.element.children wsdlUri "message").filterMap fun e =>
    (e.attribute? "name").map fun name => (⟨definitions.target, name⟩, definitions, e)

/-- The messages of all service descriptions, in order. -/
def Catalog.messages (catalog : Catalog) : List (ExpandedName × Definitions × Xml.Element) :=
  catalog.definitions.flatMap Definitions.messages

/-- Among the messages of one service description the first of an expanded name is the first of its
local name, if the namespace is the right one. -/
theorem Definitions.find?_messages (definitions : Definitions) (key : ExpandedName) :
    definitions.messages.find? (fun message => message.1 = key)
      = if definitions.target = key.uri then
          (definitions.message? key.name).map fun e => (key, definitions, e)
        else none := by
  have hnamed : ∀ name, (⟨definitions.target, name⟩ : ExpandedName) = key ↔
      definitions.target = key.uri ∧ name = key.name := fun name => by
    cases key
    exact ExpandedName.mk.injEq .. ▸ Iff.rfl
  rw [messages, message?]
  induction definitions.element.children wsdlUri "message" with
  | nil => simp
  | cons e rest ih =>
    cases hname : e.attribute? "name" with
    | none =>
      rw [List.filterMap_cons_none (by rw [hname]; rfl), ih,
        List.find?_cons_of_neg (by simp [hname])]
    | some name =>
      rw [List.filterMap_cons_some (by rw [hname]; rfl)]
      by_cases hkey : definitions.target = key.uri ∧ name = key.name
      · rw [List.find?_cons_of_pos (by simpa using (hnamed name).2 hkey), if_pos hkey.1,
          List.find?_cons_of_pos (by simpa [hname] using hkey.2)]
        exact congrArg (fun key => some (key, definitions, e)) ((hnamed name).2 hkey)
      · rw [List.find?_cons_of_neg (by simpa [hnamed] using hkey), ih]
        split
        · rename_i htarget
          rw [List.find?_cons_of_neg]
          simpa [hname, htarget] using hkey
        · rfl

namespace Catalog

variable {catalog : Catalog} {key : ExpandedName} {declaring : Definitions} {body : Xml.Element}

theorem message?_eq_find? (catalog : Catalog) (key : ExpandedName) :
    catalog.message? key
      = (catalog.messages.find? fun message => message.1 = key).map Prod.snd := by
  rw [messages, List.find?_flatMap, List.map_findSome?, message?]
  congr 1
  funext definitions
  rw [Function.comp_apply, Definitions.find?_messages]
  split
  · rw [Option.map_map]
    rfl
  · rfl

/-- **Of several messages of a name the first counts.** -/
theorem message?_eq_some_iff :
    catalog.message? key = some (declaring, body) ↔
      ∃ front back, catalog.messages = front ++ (key, declaring, body) :: back ∧
        ∀ other ∈ front, other.1 ≠ key := by
  rw [message?_eq_find?, Option.map_eq_some_iff]
  constructor
  · rintro ⟨⟨found, rest⟩, hfound, rfl⟩
    obtain ⟨hkey, front, back, heq, hnone⟩ := List.find?_eq_some_iff_append.1 hfound
    obtain rfl : found = key := by simpa using hkey
    exact ⟨front, back, heq, fun other hother => by simpa using hnone other hother⟩
  · rintro ⟨front, back, heq, hnone⟩
    refine ⟨(key, declaring, body), List.find?_eq_some_iff_append.2 ⟨by simp, front, back, heq, ?_⟩,
      rfl⟩
    intro other hother
    simpa using hnone other hother

end Catalog

namespace Service

/-! ## What an operation comes from -/

/-- The message of an operation in a direction wraps an element of a type. The name that the first
child for the direction gives is expanded where it stands, and so is the name that the first part of
the message gives; a name that needs it belongs to the namespace of the service description around
it. Of several messages of the name the first counts. -/
inductive Conveys (catalog : Catalog) (types : TypeMap) (definitions : Definitions)
    (e : Xml.Element) (direction : Direction) (type : TypeDescriptor) : Prop where
  | wraps {reference body part : Xml.Element} {written element : String}
      {message key : ExpandedName} {declaring : Definitions}
      {front back : List (ExpandedName × Definitions × Xml.Element)}
      (hreference : (e.children wsdlUri direction.label).head? = some reference)
      (hwritten : reference.attribute? "message" = some written)
      (hmessage : QName.expand reference.scope definitions.target written = .ok message)
      (hdeclared : catalog.messages = front ++ (message, declaring, body) :: back)
      (hfirst : ∀ other ∈ front, other.1 ≠ message)
      (hpart : (body.children wsdlUri "part").head? = some part)
      (helement : part.attribute? "element" = some element)
      (hkey : QName.expand part.scope declaring.target element = .ok key)
      (htype : types.get? key = some type)

/-- An element declares an operation: it has a name, both its messages wrap elements of types of the
map, and the way up from the type of the input ends in the map and takes in no name twice. The
operation has the properties on this way as its parameters. -/
def Resolves (naming : Naming) (catalog : Catalog) (types : TypeMap) (definitions : Definitions)
    (e : Xml.Element) (op : Operation) : Prop :=
  ∃ input output chain, e.attribute? "name" = some op.name ∧
    Conveys catalog types definitions e .input input ∧
    Conveys catalog types definitions e .output output ∧
    types.Lineage input chain ∧ (chain.map TypeDescriptor.key).Nodup ∧
    op.parameters = firstParameters chain ∧
    op.wrapper = ⟨input.key, naming.qualifiedName input.key⟩ ∧
    op.result = ⟨output.key, naming.qualifiedName output.key⟩

variable {naming : Naming} {catalog : Catalog} {types : TypeMap} {definitions : Definitions}
variable {e : Xml.Element} {op : Operation} {type : TypeDescriptor}
variable {key : ExpandedName} {qname name : String} {direction : Direction}

theorem expand_eq_ok_iff :
    expand definitions e qname = .ok key ↔
      QName.expand e.scope definitions.target qname = .ok key := by
  rw [expand]
  cases QName.expand e.scope definitions.target qname <;> simp [Except.mapError]

theorem messageName_eq_ok_iff {reference : Xml.Element} {written : String} :
    messageName e name direction = .ok (reference, written) ↔
      e.child? wsdlUri direction.label = some reference ∧
        reference.attribute? "message" = some written := by
  have hfound : ∀ found : Option (Xml.Element × String),
      found.elim (Except.error (.noMessage name direction)) Except.ok
          = (Except.ok (reference, written) : Except OperationError _) ↔
        found = some (reference, written) := fun found => by
    cases found <;> simp
  simp only [messageName, hfound, Option.bind_eq_bind, Option.bind_eq_some_iff]
  simp +contextual [eq_comm]

/-- The type of a direction is that of the element which its message conveys. -/
theorem directionType_eq_ok_iff_conveys :
    directionType catalog types definitions e name direction = .ok type ↔
      Conveys catalog types definitions e direction type := by
  rw [directionType_eq_ok_iff]
  constructor
  · rintro ⟨reference, written, message, hname, hmessage, htype⟩
    obtain ⟨hreference, hwritten⟩ := messageName_eq_ok_iff.1 hname
    obtain ⟨declaring, body, part, element, key, hbody, hpart, helement, hkey, hget⟩ :=
      messageType_eq_ok_iff.1 htype
    obtain ⟨front, back, hdeclared, hfirst⟩ := Catalog.message?_eq_some_iff.1 hbody
    rw [Xml.Element.child?_eq_head?] at hreference hpart
    exact .wraps hreference hwritten (expand_eq_ok_iff.1 hmessage) hdeclared hfirst hpart helement
      (expand_eq_ok_iff.1 hkey) hget
  · rintro ⟨hreference, hwritten, hmessage, hdeclared, hfirst, hpart, helement, hkey, hget⟩
    rw [← Xml.Element.child?_eq_head?] at hreference hpart
    have hbody := Catalog.message?_eq_some_iff.2 ⟨_, _, hdeclared, hfirst⟩
    exact ⟨_, _, _, messageName_eq_ok_iff.2 ⟨hreference, hwritten⟩, expand_eq_ok_iff.2 hmessage,
      messageType_eq_ok_iff.2 ⟨_, _, _, _, _, hbody, hpart, helement, expand_eq_ok_iff.2 hkey,
        hget⟩⟩

theorem operation_eq_ok_iff_resolves :
    operation naming catalog types definitions e = .ok op ↔
      Resolves naming catalog types definitions e op := by
  simp only [operation_eq_ok_iff, directionType_eq_ok_iff_conveys,
    TypeMap.flatten_eq_ok_iff]
  constructor
  · rintro ⟨input, output, hname, hinput, houtput, ⟨chain, hlineage, hnodup, hparameters⟩, hrefs⟩
    exact ⟨input, output, chain, hname, hinput, houtput, hlineage, hnodup, hparameters, hrefs⟩
  · rintro ⟨input, output, chain, hname, hinput, houtput, hlineage, hnodup, hparameters, hrefs⟩
    exact ⟨input, output, hname, hinput, houtput, ⟨chain, hlineage, hnodup, hparameters⟩, hrefs⟩

/-! ## Each element by itself -/

theorem resolved?_eq_some_iff :
    resolved? naming catalog types (definitions, e) = some op ↔
      Resolves naming catalog types definitions e op := by
  rw [← operation_eq_ok_iff_resolves, resolved?]
  cases operation naming catalog types definitions e <;> simp [Except.toOption]

theorem unresolved?_eq_none_iff :
    unresolved? naming catalog types (definitions, e) = none ↔
      ∃ op, Resolves naming catalog types definitions e op := by
  simp only [← operation_eq_ok_iff_resolves, unresolved?]
  cases operation naming catalog types definitions e <;> simp

/-- The report on an element gives the place of the element. -/
theorem about_unresolved? {finding : Finding}
    (h : unresolved? naming catalog types (definitions, e) = some finding) :
    finding.problem.kind = .unresolvableReference ∧ finding.file = definitions.location ∧
      finding.line = e.line := by
  rw [unresolved?] at h
  split at h
  · cases h
  · cases h
    exact ⟨rfl, rfl, rfl⟩

/-- **Each element that declares an operation resolves or is reported.** The operations of some
documents are those of the elements that resolve, in the order of the documents and of the elements
in each. Of every other element there is one report, of a reference that does not resolve, with the
place of the element; no element has to do with what comes of another one. -/
theorem resolved_or_reported (naming : Naming) (catalog : Catalog) (types : TypeMap) :
    (∀ definitions e op, resolved? naming catalog types (definitions, e) = some op ↔
        Resolves naming catalog types definitions e op) ∧
      (∀ definitions e, unresolved? naming catalog types (definitions, e) = none ↔
        ∃ op, Resolves naming catalog types definitions e op) ∧
      (∀ definitions e finding, unresolved? naming catalog types (definitions, e) = some finding →
        finding.problem.kind = .unresolvableReference ∧ finding.file = definitions.location ∧
          finding.line = e.line) ∧
      ∀ documents, let declared := declarations (catalog.definitionsOf documents)
        (operationsOf naming catalog types documents).value
            = declared.filterMap (resolved? naming catalog types) ∧
          (operationsOf naming catalog types documents).findings
            = declared.filterMap (unresolved? naming catalog types) :=
  ⟨fun _ _ _ => resolved?_eq_some_iff, fun _ _ => unresolved?_eq_none_iff,
    fun _ _ _ => about_unresolved?,
    fun documents => ⟨value_operationsOf documents, findings_operationsOf documents⟩⟩

end Service

end WsdlTypes
