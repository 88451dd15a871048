import Mathlib.Data.List.Nodup
import Mathlib.Data.List.Pairwise
import WsdlTypes.Proofs.Walk.Types
/-!
# Declarations of different names

Where no two declarations have one name, nothing is merged in a walk: the types are those that
there were and the descriptors of the declarations, in whatever order these are met
(`Walk.get?_documents`). And what is found under a name is the one declaration of this name
(`Schema.eq_of_nameOf?_eq`).
-/

namespace WsdlTypes

/-- The expanded name of a declaration of a schema, if it has one. -/
def Schema.nameOf? (schema : Schema) (e : Xml.Element) : Option ExpandedName :=
  (e.attribute? "name").map (⟨schema.target, ·⟩)

/-- The names of the elements and types that are declared at the top of a schema. -/
def Schema.names (schema : Schema) : List ExpandedName :=
  schema.declarations.filterMap schema.nameOf?

theorem Schema.nameOf?_eq_some_iff {schema : Schema} {e : Xml.Element} {key : ExpandedName} :
    schema.nameOf? e = some key ↔
      schema.target = key.uri ∧ e.attribute? "name" = some key.name := by
  obtain ⟨uri, name⟩ := key
  rw [nameOf?, Option.map_eq_some_iff]
  constructor
  · rintro ⟨_, hname, heq⟩
    cases heq
    exact ⟨rfl, hname⟩
  · rintro ⟨rfl, hname⟩
    exact ⟨name, hname, rfl⟩

/-- Where no name comes twice, two declarations of one name are one. -/
theorem Schema.eq_of_nameOf?_eq {schemas : List Schema} {parts : Schema → List Xml.Element}
    (hnodup : (schemas.flatMap fun schema => (parts schema).filterMap schema.nameOf?).Nodup)
    {schema schema' : Schema} {e e' : Xml.Element} {key : ExpandedName}
    (hschema : schema ∈ schemas) (he : e ∈ parts schema) (hname : schema.nameOf? e = some key)
    (hschema' : schema' ∈ schemas) (he' : e' ∈ parts schema')
    (hname' : schema'.nameOf? e' = some key) : e = e' := by
  -- Seen as one list of declarations, each with its schema, no two of them have one name.
  let all := schemas.flatMap fun schema => (parts schema).map (schema, ·)
  let nameOf? : Schema × Xml.Element → Option ExpandedName := fun d => d.1.nameOf? d.2
  have hmem : ∀ {schema : Schema} {e : Xml.Element}, schema ∈ schemas → e ∈ parts schema →
      (schema, e) ∈ all := fun hschema he =>
    List.mem_flatMap.2 ⟨_, hschema, List.mem_map.2 ⟨_, he, rfl⟩⟩
  have hnodup' : (all.filterMap nameOf?).Nodup := by
    rw [List.filterMap_flatMap]
    simpa only [List.filterMap_map, Function.comp_def] using hnodup
  by_contra hne
  have hpairwise := (List.pairwise_filterMap.1 hnodup')
  have : Std.Symm fun d d' : Schema × Xml.Element =>
      ∀ k, nameOf? d = some k → ∀ k', nameOf? d' = some k' → k ≠ k' :=
    ⟨fun d d' h k hk k' hk' => (h k' hk' k hk).symm⟩
  exact hpairwise.forall (hmem hschema he) (hmem hschema' he')
    (fun heq => hne (congrArg Prod.snd heq)) key hname key hname' rfl

/-- The name of a descriptor is that of the declaration. -/
theorem Declaration.nameOf?_of_describeAny {config : Config} {catalog : Catalog} {schema : Schema}
    {e : Xml.Element} {type : TypeDescriptor}
    (h : (describeAny config catalog schema e).value = some type) :
    schema.nameOf? e = some type.key := by
  obtain ⟨name, hname, hkey, -⟩ := key_of_describeAny h
  rw [Schema.nameOf?, hname, hkey, Option.map_some]

namespace Walk

variable {config : Config} {catalog : Catalog} {walk : Walk} {start : TypeMap}
variable {key : ExpandedName} {type : TypeDescriptor}

/-- A declaration of a new name adds its descriptor, if it has one. -/
theorem get?_declare {d : Schema × Xml.Element}
    (hnew : ∀ name, d.1.nameOf? d.2 = some name → name ∉ walk.types.keys) :
    (declare config catalog walk d).value.types.get? key = some type ↔
      walk.types.get? key = some type ∨
        (Declaration.describeAny config catalog d.1 d.2).value = some type ∧ type.key = key := by
  cases hdescribe : (Declaration.describeAny config catalog d.1 d.2).value with
  | none => simp [value_declare_of_none hdescribe]
  | some own =>
    have hnone : walk.types.get? own.key = none :=
      SortedMap.get?_eq_none_iff.2 (hnew _ (Declaration.nameOf?_of_describeAny hdescribe))
    rw [value_declare_of_some hdescribe, enter_of_get?_eq_none hnone, Report.value_pure,
      SortedMap.get?_insert, Option.some.injEq]
    by_cases heq : own.key = key
    · subst heq
      rw [if_pos rfl, hnone, Option.some.injEq]
      constructor
      · rintro rfl
        exact Or.inr ⟨rfl, rfl⟩
      · rintro (h | ⟨h, -⟩)
        · cases h
        · exact h
    · rw [if_neg heq]
      refine ⟨Or.inl, ?_⟩
      rintro (h | ⟨rfl, hkey⟩)
      · exact h
      · exact absurd hkey heq

/-- **A walk over declarations of different new names** adds their descriptors, whatever the
order. -/
theorem get?_fold {l : List (Schema × Xml.Element)}
    (hnodup : (l.filterMap fun d => d.1.nameOf? d.2).Nodup)
    (hnew : ∀ name ∈ l.filterMap fun d => d.1.nameOf? d.2, name ∉ walk.types.keys) :
    (Report.fold (declare config catalog) walk l).value.types.get? key = some type ↔
      walk.types.get? key = some type ∨
        ∃ d ∈ l, (Declaration.describeAny config catalog d.1 d.2).value = some type ∧
          type.key = key := by
  induction l generalizing walk with
  | nil => simp
  | cons d rest ih =>
    have hfirst : ∀ name, d.1.nameOf? d.2 = some name → name ∉ walk.types.keys := fun name hname =>
      hnew name (List.mem_filterMap.2 ⟨d, List.mem_cons_self, hname⟩)
    have hrest : (rest.filterMap fun d => d.1.nameOf? d.2).Nodup := by
      rw [List.filterMap_cons] at hnodup
      split at hnodup
      · exact hnodup
      · exact (List.nodup_cons.1 hnodup).2
    rw [Report.value_fold_cons, ih hrest, get?_declare hfirst]
    · simp only [List.mem_cons, exists_eq_or_imp, or_assoc]
    · -- What is declared further on is not the name that just came in, either.
      intro name hname hmem
      rcases mem_keys_declare.1 hmem with hold | ⟨own, hdescribe, rfl⟩
      · obtain ⟨other, hother, heq⟩ := List.mem_filterMap.1 hname
        exact hnew name (List.mem_filterMap.2 ⟨other, List.mem_cons_of_mem _ hother, heq⟩) hold
      · rw [List.filterMap_cons, Declaration.nameOf?_of_describeAny hdescribe] at hnodup
        exact (List.nodup_cons.1 hnodup).1 hname

/-- The names of what is walked are those in the schemas. -/
theorem filterMap_declarationsOf (order : List Nat) :
    ((catalog.declarationsOf order).filterMap fun d => d.1.nameOf? d.2)
      = (catalog.schemasOf order).flatMap Schema.names := by
  rw [Catalog.declarationsOf, List.filterMap_flatMap]
  simp only [List.filterMap_map, Function.comp_def]
  rfl

/-- **A walk over schemas without a common or an old name** adds the descriptors of their
declarations. -/
theorem get?_documents {order : List Nat}
    (hnodup : ((catalog.schemasOf order).flatMap Schema.names).Nodup)
    (hnew : ∀ name ∈ (catalog.schemasOf order).flatMap Schema.names, name ∉ start.keys) :
    (documents config catalog start order).value.types.get? key = some type ↔
      start.get? key = some type ∨
        ∃ d ∈ catalog.declarationsOf order,
          (Declaration.describeAny config catalog d.1 d.2).value = some type ∧
            type.key = key := by
  rw [← filterMap_declarationsOf] at hnodup hnew
  rw [documents_eq_fold]
  exact get?_fold hnodup hnew

end Walk

end WsdlTypes
