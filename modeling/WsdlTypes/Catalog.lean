import WsdlTypes.DocumentReference
import WsdlTypes.ExpandedName
import WsdlTypes.Library
/-!
# The catalog of declarations

The schemas and service descriptions of all documents, in the order of the documents, and
the look-up of a declaration by its expanded name: the first one wins.
-/

namespace WsdlTypes

/-- A schema, on its own or inside a service description. -/
structure Schema where
  document : Nat
  /-- Where its document lives, as it is written. -/
  location : String
  element : Xml.Element
  /-- The namespace that its declarations belong to. -/
  target : String

/-- A service description. -/
structure Definitions where
  document : Nat
  /-- Where its document lives, as it is written. -/
  location : String
  element : Xml.Element
  /-- The namespace that its messages belong to. -/
  target : String

namespace Schema

/-- The first declaration of a tag and a name. -/
def declaration? (schema : Schema) (tag name : String) : Option Xml.Element :=
  (schema.element.children schemaUri tag).find? fun e => e.attribute? "name" = some name

/-- The schemas of a document. One that declares no namespace takes the inherited one. -/
def ofDocument (document : Document) (inherited : Option String) : List Schema :=
  (document.root.descendants schemaUri "schema").map fun element =>
    { document := document.id
      location := document.location.display
      element
      target := (element.attribute? "targetNamespace").getD (inherited.getD "") }

end Schema

namespace Definitions

/-- The first message of a name. -/
def message? (definitions : Definitions) (name : String) : Option Xml.Element :=
  (definitions.element.children wsdlUri "message").find? fun e => e.attribute? "name" = some name

/-- The service description that a document is, if it is one. -/
def ofDocument (document : Document) : List Definitions :=
  if DocumentReference.isDefinitions document.root then
    [{ document := document.id
       location := document.location.display
       element := document.root
       target := document.root.attributeD "targetNamespace" }]
  else []

end Definitions

/-- The schemas and service descriptions of some documents. -/
structure Catalog where
  schemas : List Schema
  definitions : List Definitions

namespace Catalog

/-- The catalog of documents; some inherit a namespace. -/
def ofDocuments (documents : List Document) (inherited : Nat → Option String) : Catalog where
  schemas := documents.flatMap fun document => Schema.ofDocument document (inherited document.id)
  definitions := documents.flatMap Definitions.ofDocument

/-- The schemas of documents, in the order in which the documents are given. -/
def schemasOf (catalog : Catalog) (documents : List Nat) : List Schema :=
  documents.flatMap fun id => catalog.schemas.filter fun schema => schema.document = id

/-- The service descriptions of documents, in the order in which the documents are given. -/
def definitionsOf (catalog : Catalog) (documents : List Nat) : List Definitions :=
  documents.flatMap fun id =>
    catalog.definitions.filter fun definitions => definitions.document = id

/-- The first declaration of a tag and an expanded name, with its schema. -/
def declaration? (catalog : Catalog) (tag : String) (key : ExpandedName) :
    Option (Schema × Xml.Element) :=
  catalog.schemas.findSome? fun schema =>
    if schema.target = key.uri then (schema.declaration? tag key.name).map (schema, ·) else none

/-- The first message of an expanded name, with its service description. -/
def message? (catalog : Catalog) (key : ExpandedName) : Option (Definitions × Xml.Element) :=
  catalog.definitions.findSome? fun definitions =>
    if definitions.target = key.uri then (definitions.message? key.name).map (definitions, ·)
    else none

/-- A declaration that is found belongs to the namespace and has the name that were asked
for. -/
theorem declaration?_eq_some {catalog : Catalog} {tag : String} {key : ExpandedName}
    {schema : Schema} {e : Xml.Element} (h : catalog.declaration? tag key = some (schema, e)) :
    schema ∈ catalog.schemas ∧ schema.target = key.uri ∧
      e ∈ schema.element.children schemaUri tag ∧ e.attribute? "name" = some key.name := by
  obtain ⟨s, hs, h⟩ := List.exists_of_findSome?_eq_some h
  split at h
  · rename_i htarget
    obtain ⟨found, hfound, heq⟩ := Option.map_eq_some_iff.1 h
    cases heq
    exact ⟨hs, htarget, List.mem_of_find?_eq_some hfound, by
      simpa using List.find?_some hfound⟩
  · cases h

end Catalog

end WsdlTypes
