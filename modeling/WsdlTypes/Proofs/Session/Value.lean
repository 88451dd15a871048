import WsdlTypes.Proofs.Session.Schemas
import WsdlTypes.Proofs.Walk.Value
/-!
# Values and parents in a session

Where no element and no attribute of any document is called like values are, no type of a
session ever has both a parent and a value, whatever was merged under its name
(`parent_or_value`).
-/

namespace WsdlTypes.Session

variable {session : Session} {c : Call}

/-- No element or attribute of a document is called like values are. -/
def FreeOfValues (session : Session) : Prop :=
  ∀ document ∈ session.library.documents,
    WsdlTypes.FreeOfValues session.config.valueName document.root

instance (session : Session) : Decidable session.FreeOfValues :=
  decidable_of_iff (∀ document ∈ session.library.documents,
    WsdlTypes.FreeOfValues session.config.valueName document.root) Iff.rfl

/-- And then none of a document that was there before. -/
theorem FreeOfValues.of_call (hnumbered : session.library.Numbered)
    (h : (session.call c).FreeOfValues) : session.FreeOfValues := by
  obtain ⟨-, fresh, hdocuments, -⟩ := call_order (c := c) hnumbered
  intro document hmem
  have hmem' : document ∈ (session.call c).library.documents := by
    rw [hdocuments]
    exact List.mem_append_left _ hmem
  exact config_call session c ▸ h document hmem'

/-- What is declared at the top of a schema is free of values if the document is. -/
theorem FreeOfValues.of_mem_declarationsOf (h : session.FreeOfValues) {order : List Nat}
    {d : Schema × Xml.Element} (hd : d ∈ session.catalog.declarationsOf order) :
    WsdlTypes.FreeOfValues session.config.valueName d.2 := by
  obtain ⟨document, hdocument, hschema, hdeclaration⟩ := exists_of_mem_declarationsOf hd
  obtain ⟨element, helement, heq⟩ := List.mem_map.1 hschema
  have hinside : element ∈ document.root.all := (List.mem_filter.1 helement).1
  have hchild : d.2 ∈ element.all := by
    have hown : d.1.element = element := by rw [← heq]
    rw [Schema.declarations, hown] at hdeclaration
    rcases List.mem_append.1 hdeclaration with hmem | hmem
    · exact Xml.Element.mem_all_of_mem_children hmem
    · rcases List.mem_append.1 hmem with hmem | hmem
      · exact Xml.Element.mem_all_of_mem_children hmem
      · exact Xml.Element.mem_all_of_mem_children hmem
  exact ((h document hdocument).of_mem hinside).of_mem hchild

/-- **A call leaves every type with a parent or a value.** -/
theorem exclusive_call (hfree : (session.call c).FreeOfValues)
    (h : session.types.Exclusive session.config.valueName) :
    (session.call c).types.Exclusive (session.call c).config.valueName := by
  rw [types_call, config_call]
  refine Walk.exclusive_documents (fun d hd => ?_) h
  exact config_call session c ▸ hfree.of_mem_declarationsOf hd

/-- **A parent or a value.** Let no element and no attribute of the documents that came in be
called like values are configured to be, by its own name or by that of what it refers to. Then
after any calls no type has both a parent and a property of this name, whatever declarations
were merged in it, and in whatever order. -/
theorem parent_or_value (config : Config) (l : List Call)
    (hfree : ((Session.new config).calls l).FreeOfValues) :
    ∀ key type, ((Session.new config).calls l).types.get? key = some type →
      type.parent = none ∨ ∀ property ∈ type.properties, property.name ≠ config.valueName := by
  -- What is free of values at the end was so at every call on the way.
  have hinvariant : ((Session.new config).calls l).library.Numbered ∧
      (((Session.new config).calls l).FreeOfValues →
        ((Session.new config).calls l).types.Exclusive
          ((Session.new config).calls l).config.valueName) := by
    refine calls_induction
      (P := fun s => s.library.Numbered ∧ (s.FreeOfValues → s.types.Exclusive s.config.valueName))
      (fun ih => ⟨(call_order ih.1).1, fun hfree => ?_⟩) ⟨numbered_new config, fun _ => ?_⟩ l
    · exact exclusive_call hfree (ih.2 (hfree.of_call ih.1))
    · intro key type hget
      cases hget
  have hexclusive := hinvariant.2 hfree
  rw [config_calls] at hexclusive
  exact hexclusive

/-- A type that extends another by complex content, and a simple type of the same name. -/
def extendedValue : File.Tree :=
  .ofTexts
    [("a", Schema.text "" <|
      "<s:complexType name='T'><s:complexContent><s:extension base='B'>"
        ++ "<s:attribute name='x'/></s:extension></s:complexContent></s:complexType>"
        ++ "<s:simpleType name='T'><s:restriction base='s:string'/></s:simpleType>")]

/-- The type has the parent until the value comes in. -/
theorem parent_or_value_extendedValue :
    let session := (Session.new {}).calls [⟨extendedValue, "a"⟩]
    (∀ key type, session.types.get? key = some type →
        type.parent = none ∨ ∀ property ∈ type.properties, property.name ≠ "_") ∧
      (session.types.get? ⟨"", "T"⟩).map (fun type => type.properties.map Property.name)
        = some ["x", "_"] :=
  ⟨parent_or_value {} _ (by decide +kernel), by decide +kernel⟩

end WsdlTypes.Session
