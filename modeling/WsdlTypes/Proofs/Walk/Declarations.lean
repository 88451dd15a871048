import WsdlTypes.Proofs.Report
import WsdlTypes.Walk
/-!
# The declarations that a walk meets

A walk goes through the schemas of some documents and, in each of them, through elements,
complex types and simple types. Seen as one list (`Catalog.declarationsOf`) these are the
steps of a single fold (`documents_eq_fold`), each of which enters one descriptor, or none.
-/

namespace WsdlTypes

/-- The top-level declarations of a schema in the order in which they are walked. -/
def Schema.declarations (schema : Schema) : List Xml.Element :=
  schema.element.children schemaUri "element"
    ++ (schema.element.children schemaUri "complexType"
      ++ schema.element.children schemaUri "simpleType")

/-- The top-level declarations of some documents in the order in which they are walked, each
with its schema. -/
def Catalog.declarationsOf (catalog : Catalog) (documents : List Nat) :
    List (Schema × Xml.Element) :=
  (catalog.schemasOf documents).flatMap fun schema =>
    schema.declarations.map fun e => (schema, e)

namespace Declaration

variable (config : Config) (catalog : Catalog) (schema : Schema)

/-- The descriptor of a top-level declaration, be it of an element or of a type. -/
def describeAny (e : Xml.Element) : Report (Option TypeDescriptor) :=
  if e.hasTag schemaUri "element" then describeElement config catalog schema e
  else describeType config catalog schema e

/-- Whether a declaration is an element that only names its type. -/
def isAlias (e : Xml.Element) : Bool :=
  e.hasTag schemaUri "element" && ((e.attribute? "type").isSome && !hasInlineType e)

variable {config catalog schema} {e : Xml.Element} {type : TypeDescriptor}

theorem describeAny_of_element (h : e ∈ schema.element.children schemaUri "element") :
    describeAny config catalog schema e = describeElement config catalog schema e := by
  rw [describeAny, if_pos (Xml.Element.hasTag_of_mem_children h)]

theorem describeAny_of_type {tag : String} (htag : tag ≠ "element")
    (h : e ∈ schema.element.children schemaUri tag) :
    describeAny config catalog schema e = describeType config catalog schema e := by
  have hnot := Xml.Element.not_hasTag_of_ne (Xml.Element.hasTag_of_mem_children h) htag
  rw [describeAny, hnot]
  rfl

/-- A descriptor is that of an element that only names its type, and then it extends that, or it
describes a body. -/
theorem describeAny_cases (h : (describeAny config catalog schema e).value = some type) :
    isAlias e = true ∧ (∃ name target, type = extending config schema e name target) ∨
      isAlias e = false ∧ ∃ name, type = (describe config catalog schema e name).value := by
  unfold describeAny at h
  unfold isAlias
  split at h
  · rename_i helement
    rw [helement, Bool.true_and]
    unfold describeElement at h
    split at h
    · cases h
    · rename_i name _ htype
      rw [Report.value_map, Option.some.injEq] at h
      rw [htype]
      exact Or.inr ⟨rfl, name, h.symm⟩
    · rename_i name qname _ htype
      rw [htype, Option.isSome_some, Bool.true_and]
      split at h
      · rename_i hinline
        rw [Report.value_map, Option.some.injEq] at h
        rw [hinline]
        exact Or.inr ⟨rfl, name, h.symm⟩
      · rename_i hinline
        rw [Bool.not_eq_true] at hinline
        rw [hinline]
        rw [Report.value_bind] at h
        split at h
        · cases h
        · split at h
          · cases h
          · -- The element extends the type that it names.
            rw [Report.value_pure, Option.some.injEq] at h
            exact Or.inl ⟨rfl, name, _, h.symm⟩
  · rename_i helement
    rw [Bool.not_eq_true] at helement
    rw [helement, Bool.false_and]
    unfold describeType at h
    split at h
    · cases h
    · rename_i name _
      rw [Report.value_map, Option.some.injEq] at h
      exact Or.inr ⟨rfl, name, h.symm⟩

/-! ## The descriptor of a declaration is called by its name -/

theorem key_describe (name : String) :
    (describe config catalog schema e name).value.key = ⟨schema.target, name⟩ := by
  unfold describe
  split <;> rfl

theorem name_describe (name : String) :
    (describe config catalog schema e name).value.name = name := by
  unfold describe
  split <;> rfl

/-- A descriptor of an element belongs to the namespace of its schema and has the name of
the element. -/
theorem key_of_describeElement
    (h : (describeElement config catalog schema e).value = some type) :
    ∃ name, e.attribute? "name" = some name ∧ type.key = ⟨schema.target, name⟩ ∧
      type.name = name := by
  cases hname : e.attribute? "name" with
  | none => simp [describeElement, hname] at h
  | some name =>
    refine ⟨name, rfl, ?_⟩
    cases htype : e.attribute? "type" with
    | none =>
      simp only [describeElement, hname, htype, Report.value_map, Option.some.injEq] at h
      rw [← h]
      exact ⟨key_describe name, name_describe name⟩
    | some qname =>
      simp only [describeElement, hname, htype] at h
      split at h
      · simp only [Report.value_map, Option.some.injEq] at h
        rw [← h]
        exact ⟨key_describe name, name_describe name⟩
      · -- The element has the type of another declaration, which it extends.
        simp only [Report.value_bind] at h
        split at h
        · simp at h
        · split at h
          · simp at h
          · simp only [Report.value_pure, Option.some.injEq] at h
            rw [← h]
            exact ⟨rfl, rfl⟩

/-- And so does a descriptor of a type. -/
theorem key_of_describeType (h : (describeType config catalog schema e).value = some type) :
    ∃ name, e.attribute? "name" = some name ∧ type.key = ⟨schema.target, name⟩ ∧
      type.name = name := by
  cases hname : e.attribute? "name" with
  | none => simp [describeType, hname] at h
  | some name =>
    simp only [describeType, hname, Report.value_map, Option.some.injEq] at h
    rw [← h]
    exact ⟨name, rfl, key_describe name, name_describe name⟩

/-- **A descriptor belongs to the namespace of its schema and has the name of its
declaration.** -/
theorem key_of_describeAny (h : (describeAny config catalog schema e).value = some type) :
    ∃ name, e.attribute? "name" = some name ∧ type.key = ⟨schema.target, name⟩ ∧
      type.name = name := by
  unfold describeAny at h
  split at h
  · exact key_of_describeElement h
  · exact key_of_describeType h

/-- A type that has a name has a descriptor. -/
theorem exists_describeAny_of_type {tag name : String} (htag : tag ≠ "element")
    (h : e ∈ schema.element.children schemaUri tag) (hname : e.attribute? "name" = some name) :
    ∃ type, (describeAny config catalog schema e).value = some type ∧
      type.key = ⟨schema.target, name⟩ := by
  rw [describeAny_of_type htag h]
  simp only [describeType, hname, Report.value_map]
  exact ⟨_, rfl, key_describe name⟩

end Declaration

namespace Walk

variable (config : Config) (catalog : Catalog)

/-- The step of a walk for one declaration. -/
def declare (walk : Walk) (declaration : Schema × Xml.Element) : Report Walk :=
  enterDescribed config (Declaration.describeAny config catalog) declaration.1 walk declaration.2

/-- A schema is walked declaration by declaration. -/
theorem schema_eq_fold (walk : Walk) (s : Schema) :
    schema config catalog walk s
      = Report.fold (fun walk e => declare config catalog walk (s, e)) walk s.declarations := by
  rw [Schema.declarations, Report.fold_append]
  simp only [Report.fold_append, schema]
  have helement : ∀ w : Walk, Report.fold
      (enterDescribed config (Declaration.describeElement config catalog) s) w
        (s.element.children schemaUri "element")
      = Report.fold (fun walk e => declare config catalog walk (s, e)) w
        (s.element.children schemaUri "element") := fun w =>
    Report.fold_congr (fun b e he => by
      simp only [declare, enterDescribed, Declaration.describeAny_of_element he]) w
  have htype : ∀ tag, tag ≠ "element" → ∀ w : Walk, Report.fold
      (enterDescribed config (Declaration.describeType config catalog) s) w
        (s.element.children schemaUri tag)
      = Report.fold (fun walk e => declare config catalog walk (s, e)) w
        (s.element.children schemaUri tag) := fun tag htag w =>
    Report.fold_congr (fun b e he => by
      simp only [declare, enterDescribed, Declaration.describeAny_of_type htag he]) w
  rw [helement]
  simp only [htype "complexType" (by decide), htype "simpleType" (by decide)]

/-- **A walk is one fold** over the declarations of the documents. -/
theorem documents_eq_fold (types : TypeMap) (order : List Nat) :
    documents config catalog types order
      = Report.fold (declare config catalog) { types } (catalog.declarationsOf order) := by
  rw [documents, Catalog.declarationsOf, Report.fold_flatMap]
  refine Report.fold_congr (fun walk s _ => ?_) _
  rw [schema_eq_fold, Report.fold_map]

end Walk

end WsdlTypes
