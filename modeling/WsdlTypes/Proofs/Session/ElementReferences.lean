import Mathlib.Data.List.Induction
import WsdlTypes.Proofs.Session.Domain
/-!
# References to global elements

A global element is classified twice: where it is referred to (`Catalog.builtinElement?`), and
where it is walked, which may be in the same call or in an earlier one. Where its type is
declared in place, is not given, or is named with a prefix that is bound and is not the element
itself, the two agree (`builtin_or_makesType`): either the reference carries the scalar for which
the walk left the element out, or the walk made a type of the element's name. As every
declaration of every document was walked (`exists_walks`), no such reference dangles
(`element_references_resolve`).
-/

namespace WsdlTypes

/-- A global element that can be told to have a type of its own or another's: its type is
declared in place, is not given, or is named by a name that means something, and not the element
itself. -/
def ResolvableElement (key : ExpandedName) (schema : Schema) (e : Xml.Element) : Prop :=
  hasInlineType e = true ∨ e.attribute? "type" = none ∨
    ∃ written target, e.attribute? "type" = some written ∧
      schema.expand? e written = .ok target ∧ target ≠ key

/-- A walk leaves an element out because its type is a built-in one, which is a scalar. -/
def LeftOutAs (config : Config) (catalog : Catalog) (declared : Schema × Xml.Element)
    (kind : Scalar) : Prop :=
  (Declaration.describeAny config catalog declared.1 declared.2).value = none ∧
    ∃ written, declared.2.attribute? "type" = some written ∧
      (declared.1.typeName declared.2 written).value = .builtin kind

/-! ## The two classifications -/

namespace Catalog

variable {catalog : Catalog} {key : ExpandedName} {schema declaring : Schema}
variable {e global : Xml.Element}

/-- What a reference to an element carries, in whatever array. -/
theorem item_type_ofElement {reference : String} (href : e.attribute? "ref" = some reference) :
    (Member.ofElement catalog schema e).value.type.item
      = (catalog.builtinElement? (schema.expand e reference).value).elim
          (.reference (schema.expand e reference).value) .scalar := by
  have hsingle : (Member.ofSingleElement catalog schema e).value.type
      = (catalog.builtinElement? (schema.expand e reference).value).elim
          (.reference (schema.expand e reference).value) .scalar := by
    simp only [Member.ofSingleElement, href, Member.ofElementReference, Report.value_bind,
      Report.value_pure]
  have hitem : ((catalog.builtinElement? (schema.expand e reference).value).elim
      (ResolvedType.reference (schema.expand e reference).value) ResolvedType.scalar).item
      = (catalog.builtinElement? (schema.expand e reference).value).elim
          (.reference (schema.expand e reference).value) .scalar := by
    cases catalog.builtinElement? (schema.expand e reference).value <;> rfl
  simp only [Member.ofElement, Report.value_bind, Report.value_pure, hsingle]
  split
  · rw [ResolvedType.item]
    exact hitem
  · exact hitem

/-- An element is built in where its type is named and lies in the namespace of schemas. -/
theorem builtinElement?_eq_bind :
    catalog.builtinElement? key
      = (catalog.declaration? "element" key).bind fun found =>
          if hasInlineType found.2 then none
          else (found.2.attribute? "type").bind fun written =>
            match found.1.expand? found.2 written with
            | .ok target =>
              if target.uri = schemaUri then some (Scalar.ofBuiltin target.name) else none
            | .error _ => none :=
  rfl

/-- The meaning of a name that means something. -/
theorem meaning_of_expand? {written : String} {target : ExpandedName}
    (h : schema.expand? e written = .ok target) :
    QName.meaning e.scope schema.target written = target := by
  unfold Schema.expand? at h
  rw [QName.meaning, h]

/-- **The two classifications agree.** The element is left out for a scalar and a reference to it
carries this scalar, or it makes a type and a reference to it is to this type. -/
theorem builtin_or_makesType
    (hfound : catalog.declaration? "element" key = some (declaring, global))
    (htype : ResolvableElement key declaring global) (config : Config) (catalog' : Catalog) :
    (∃ kind, catalog.builtinElement? key = some kind ∧
        LeftOutAs config catalog' (declaring, global) kind) ∨
      catalog.builtinElement? key = none ∧ MakesType declaring.target key.name global := by
  obtain ⟨-, htarget, hmem, hname⟩ := declaration?_eq_some hfound
  have hbuiltin : catalog.builtinElement? key
      = if hasInlineType global then none
        else (global.attribute? "type").bind fun written =>
          match declaring.expand? global written with
          | .ok target =>
            if target.uri = schemaUri then some (Scalar.ofBuiltin target.name) else none
          | .error _ => none := by
    rw [builtinElement?_eq_bind, hfound, Option.bind_some]
  cases hinline : hasInlineType global with
  | true =>
    rw [hinline, if_pos rfl] at hbuiltin
    exact Or.inr ⟨hbuiltin, Or.inl hinline⟩
  | false =>
    rw [hinline, if_neg Bool.false_ne_true] at hbuiltin
    cases hwritten : global.attribute? "type" with
    | none =>
      rw [hwritten] at hbuiltin
      exact Or.inr ⟨hbuiltin, Or.inr (Or.inl hwritten)⟩
    | some written =>
      -- The type is named, and the name means something else than the element.
      obtain ⟨target, hexpand, hother⟩ : ∃ target,
          declaring.expand? global written = .ok target ∧ target ≠ key := by
        rcases htype with hinline' | hnone | ⟨written', target, hsome, hexpand, hother⟩
        · rw [hinline] at hinline'
          cases hinline'
        · rw [hwritten] at hnone
          cases hnone
        · rw [hwritten, Option.some.injEq] at hsome
          exact ⟨target, hsome ▸ hexpand, hother⟩
      have hmeaning := meaning_of_expand? hexpand
      simp only [hwritten, Option.bind_some, hexpand] at hbuiltin
      by_cases huri : target.uri = schemaUri
      · refine Or.inl ⟨Scalar.ofBuiltin target.name, by rw [hbuiltin, if_pos huri], ?_,
          written, hwritten, ?_⟩
        · simp only [Declaration.describeAny_of_element hmem, Declaration.describeElement, hname,
            hwritten, hinline, Bool.false_eq_true, if_false, Report.value_bind,
            Schema.value_typeName, hmeaning, TypeName.ofKey, if_pos huri, Report.value_pure]
        · rw [Schema.value_typeName, hmeaning, TypeName.ofKey, if_pos huri]
      · refine Or.inr ⟨by rw [hbuiltin, if_neg huri], Or.inr (Or.inr ⟨written, hwritten, ?_⟩)⟩
        rw [hmeaning]
        refine ⟨huri, fun hself => hother ?_⟩
        rw [hself, htarget]

end Catalog

/-! ## Every declaration is walked -/

namespace Session

variable {session : Session} {l : List Call} {schema : Schema}

/-- A call walks a declaration. -/
def Walks (session : Session) (c : Call) (declared : Schema × Xml.Element) : Prop :=
  declared ∈ (session.call c).catalog.declarationsOf (session.order c)

/-- **Every declaration of every document was walked** by one of the calls. -/
theorem exists_walks {config : Config} {e : Xml.Element} (he : e ∈ schema.declarations)
    (h : schema ∈ ((Session.new config).calls l).catalog.schemas) :
    ∃ front c back, l = front ++ c :: back ∧
      ((Session.new config).calls front).Walks c (schema, e) := by
  induction l using List.reverseRecOn with
  | nil => cases h
  | append_singleton front c ih =>
    rw [calls_append, calls_cons, calls_nil] at h
    have htidy : ((Session.new config).calls front).Tidy := ((tidy_new config).calls front).1
    obtain ⟨fresh, hdocuments, hperm⟩ := schemasOf_order (c := c) htidy.numbered
    obtain ⟨document, hdocument, hmem⟩ := mem_schemas_catalog_iff.1 h
    rw [hdocuments] at hdocument
    rcases List.mem_append.1 hdocument with hold | hnew
    · -- The document was there before, and its schemas were the same.
      rw [(htidy.call c).2.schemasOf_eq hold] at hmem
      obtain ⟨front', c', back, heq, hwalks⟩ := ih (mem_schemas_catalog_iff.2 ⟨_, hold, hmem⟩)
      exact ⟨front', c', back ++ [c], by rw [heq, List.append_assoc, List.cons_append], hwalks⟩
    · refine ⟨front, c, [], rfl, ?_⟩
      have hschema := hperm.mem_iff.2 (List.mem_flatMap.2 ⟨document, hnew, hmem⟩)
      exact List.mem_flatMap.2 ⟨schema, hschema, List.mem_map.2 ⟨e, he, rfl⟩⟩

theorem complete_calls (config : Config) (l : List Call) :
    ((Session.new config).calls l).Complete := by
  have hinvariant : ((Session.new config).calls l).Tidy ∧ ((Session.new config).calls l).Complete :=
    calls_induction (P := fun s => s.Tidy ∧ s.Complete)
      (fun ih => ⟨(ih.1.call _).1, ih.2.call ih.1 _⟩)
      ⟨tidy_new config, fun key => by simp [Session.new, SortedMap.keys, SortedMap.empty]⟩ l
  exact hinvariant.2

/-- An element that makes a type is a type of the session. -/
theorem Complete.mem_keys_of_makesType {key : ExpandedName} {e : Xml.Element}
    (h : session.Complete) (hschema : schema ∈ session.catalog.schemas)
    (htarget : schema.target = key.uri) (he : e ∈ schema.element.children schemaUri "element")
    (hname : e.attribute? "name" = some key.name) (hmakes : MakesType schema.target key.name e) :
    key ∈ session.types.keys := by
  obtain ⟨document, hdocument, hmem⟩ := mem_schemas_catalog_iff.1 hschema
  refine (h key).2 ⟨document, hdocument, ?_⟩
  have hdeclares : Walk.Declares {} session.catalog (schema, e) key := by
    rw [Walk.Declares, Declaration.describeAny_of_element he]
    exact Declaration.exists_describeElement_iff.2 ⟨htarget, hname, hmakes⟩
  exact declared_iff.1 ⟨schema, hmem, e, List.mem_append_left _ he, hdeclares⟩

/-- **References to elements do not dangle.** After any calls, whatever the files were at each of
them, let an element of any schema refer to a global element of the documents, and let the first
of that name have its type in place, or none, or one that is named with a prefix that is bound
and is not the element itself. Then the type of the property that the reference makes, without
its arrays, is either the scalar for which a call left the element out when it walked it, or the
type of the element's name, and this is one of the types. -/
theorem element_references_resolve (config : Config) (l : List Call) (schema : Schema)
    (e : Xml.Element) (reference : String) (declaring : Schema) (global : Xml.Element)
    (href : e.attribute? "ref" = some reference) :
    let session := (Session.new config).calls l
    let key := (schema.expand e reference).value
    let property := (Member.ofElement session.catalog schema e).value
    session.catalog.declaration? "element" key = some (declaring, global) →
    ResolvableElement key declaring global →
      (∃ kind, property.type.item = .scalar kind ∧
          ∃ front c back, l = front ++ c :: back ∧
            ((Session.new config).calls front).Walks c (declaring, global) ∧
            LeftOutAs config (((Session.new config).calls front).call c).catalog
              (declaring, global) kind) ∨
        property.type.item = .reference key ∧ key ∈ session.types.keys := by
  intro session key property hfound htype
  have hitem : property.type.item
      = (session.catalog.builtinElement? key).elim (.reference key) .scalar :=
    Catalog.item_type_ofElement href
  obtain ⟨hschema, htarget, hmem, hname⟩ := Catalog.declaration?_eq_some hfound
  obtain ⟨front, c, back, hl, hwalks⟩ := exists_walks (List.mem_append_left _ hmem) hschema
  rcases Catalog.builtin_or_makesType hfound htype config
      (((Session.new config).calls front).call c).catalog with
    ⟨kind, hbuiltin, hleft⟩ | ⟨hnone, hmakes⟩
  · refine Or.inl ⟨kind, ?_, front, c, back, hl, hwalks, hleft⟩
    rw [hitem, hbuiltin]
    rfl
  · refine Or.inr ⟨?_, (complete_calls config l).mem_keys_of_makesType hschema htarget hmem hname
      hmakes⟩
    rw [hitem, hnone]
    rfl

/-- A global element of a built-in type, and a type in another document that refers to it. -/
def builtinElsewhere : File.Tree :=
  .ofTexts
    [("a", Schema.text "" "<s:element name='X' type='s:int'/>"),
      ("b", Schema.text "" <|
        "<s:complexType name='T'><s:sequence><s:element ref='X' maxOccurs='2'/></s:sequence>"
          ++ "</s:complexType>")]

/-- The second call builds the property of a reference to an element that the first left out. -/
theorem element_references_resolve_builtinElsewhere :
    let session := (Session.new {}).calls [⟨builtinElsewhere, "a"⟩, ⟨builtinElsewhere, "b"⟩]
    ∃ schema ∈ session.catalog.schemas,
      ∃ e ∈ schema.element.descendants schemaUri "element", ∃ declaring global,
        e.attribute? "ref" = some "X" ∧
          session.catalog.declaration? "element" (schema.expand e "X").value
            = some (declaring, global) ∧
          ResolvableElement (schema.expand e "X").value declaring global ∧
          let type := (Member.ofElement session.catalog schema e).value.type
          ((∃ kind, type.item = .scalar kind) ∨
            type.item = .reference (schema.expand e "X").value ∧
              (schema.expand e "X").value ∈ session.types.keys) := by
  intro session
  obtain ⟨schema, hschema, e, he, href, hkey⟩ : ∃ schema ∈ session.catalog.schemas,
      ∃ e ∈ schema.element.descendants schemaUri "element",
        e.attribute? "ref" = some "X" ∧ (schema.expand e "X").value = ⟨"", "X"⟩ := by
    decide +kernel
  have hglobal : (session.catalog.declaration? "element" ⟨"", "X"⟩).map (fun found =>
      (found.2.attribute? "type", (found.1.expand? found.2 "s:int").toOption))
        = some (some "s:int", some ⟨schemaUri, "int"⟩) := by decide +kernel
  obtain ⟨⟨declaring, global⟩, hfound, htype⟩ := Option.map_eq_some_iff.1 hglobal
  obtain ⟨hwritten, hexpand⟩ := Prod.mk.inj htype
  have htarget : declaring.expand? global "s:int" = .ok ⟨schemaUri, "int"⟩ := by
    cases hmeaning : declaring.expand? global "s:int" with
    | ok target => rw [hmeaning] at hexpand; exact congrArg _ (Option.some.inj hexpand)
    | error cause => rw [hmeaning] at hexpand; cases hexpand
  have hresolvable : ResolvableElement (schema.expand e "X").value declaring global := by
    rw [hkey]
    exact Or.inr (Or.inr ⟨"s:int", _, hwritten, htarget, by decide⟩)
  rw [← hkey] at hfound
  refine ⟨schema, hschema, e, he, declaring, global, href, hfound, hresolvable, ?_⟩
  have hresolves :=
    element_references_resolve {} _ schema e "X" declaring global href hfound hresolvable
  exact hresolves.imp_left fun ⟨kind, hkind, _⟩ => ⟨kind, hkind⟩

end Session

end WsdlTypes
