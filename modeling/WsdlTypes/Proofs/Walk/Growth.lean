import WsdlTypes.Proofs.Walk.Types
/-!
# How types grow

A walk changes a type in one way: declarations of its name are merged into it, which may give
it a newer parent, or none, but neither another name nor fewer properties, and the properties
that it had come first (`TypeDescriptor.GrowsInto`). A type that no declaration of the walk is
called like stays as it is in all its parts (`Walk.growth_documents`).
-/

namespace WsdlTypes

/-- A type has become another one by declarations that were merged into it: it is called as
before, and the properties that it had come first. -/
structure TypeDescriptor.GrowsInto (older later : TypeDescriptor) : Prop where
  key : later.key = older.key
  name : later.name = older.name
  properties : older.properties <+: later.properties

namespace TypeDescriptor.GrowsInto

variable {older later last : TypeDescriptor}

theorem refl (type : TypeDescriptor) : type.GrowsInto type := ⟨rfl, rfl, List.prefix_refl _⟩

theorem trans (h : older.GrowsInto later) (h' : later.GrowsInto last) : older.GrowsInto last :=
  ⟨h'.key.trans h.key, h'.name.trans h.name, h.properties.trans h'.properties⟩

theorem merge (older newer : TypeDescriptor) : older.GrowsInto (older.merge newer) :=
  ⟨rfl, rfl, List.prefix_append _ _⟩

end TypeDescriptor.GrowsInto

/-- Every type of a map has grown into one of another map, and what is under a name is the same
in both unless the name is one of some. -/
structure TypeMap.Growth (named : ExpandedName → Prop) (start types : TypeMap) : Prop where
  grown : ∀ key type, start.get? key = some type →
    ∃ later, types.get? key = some later ∧ type.GrowsInto later
  same : ∀ key, ¬ named key → types.get? key = start.get? key

namespace TypeMap.Growth

variable {named : ExpandedName → Prop} {start types types' : TypeMap}

theorem refl (start : TypeMap) : Growth named start start :=
  ⟨fun _ type hget => ⟨type, hget, .refl type⟩, fun _ _ => rfl⟩

theorem trans (h : Growth named start types) (h' : Growth named types types') :
    Growth named start types' where
  grown key type hget := by
    obtain ⟨later, hlater, hgrows⟩ := h.grown key type hget
    obtain ⟨last, hlast, hgrows'⟩ := h'.grown key later hlater
    exact ⟨last, hlast, hgrows.trans hgrows'⟩
  same key hkey := (h'.same key hkey).trans (h.same key hkey)

/-- A type may be put under a name, if the one that was there grows into it. -/
theorem insert {key : ExpandedName} {type : TypeDescriptor} (hkey : named key)
    (hgrows : ∀ older, start.get? key = some older → older.GrowsInto type) :
    Growth named start (SortedMap.insert start key type) where
  grown key' older hget := by
    rw [SortedMap.get?_insert]
    by_cases heq : key = key'
    · subst heq
      exact ⟨type, if_pos rfl, hgrows older hget⟩
    · exact ⟨older, by rw [if_neg heq, hget], .refl older⟩
  same key' hkey' := by
    rw [SortedMap.get?_insert, if_neg]
    rintro rfl
    exact hkey' hkey

end TypeMap.Growth

namespace Walk

variable {config : Config} {catalog : Catalog} {schema : Schema} {e : Xml.Element}
variable {walk : Walk} {type older : TypeDescriptor} {named : ExpandedName → Prop}

/-- A type that loses its parent keeps the rest. -/
theorem growsInto_dropParent : type.GrowsInto (dropParent config schema e type).value := by
  rw [value_dropParent]
  split
  · exact ⟨rfl, rfl, List.prefix_refl _⟩
  · exact .refl type

/-- Entering a descriptor changes the type of its name alone, which grows. -/
theorem growth_enter (hkey : named type.key) :
    TypeMap.Growth named walk.types (enter config schema e walk type).value.types := by
  cases hget : walk.types.get? type.key with
  | none =>
    rw [enter_of_get?_eq_none hget]
    refine TypeMap.Growth.insert hkey fun older hold => ?_
    rw [hget] at hold
    cases hold
  | some older =>
    rw [value_enter_of_get?_eq_some hget]
    refine TypeMap.Growth.insert hkey fun older' hold => ?_
    rw [hget, Option.some.injEq] at hold
    subst hold
    exact (TypeDescriptor.GrowsInto.merge older type).trans growsInto_dropParent

/-- A declaration changes the type of its own name alone. -/
theorem growth_declare {d : Schema × Xml.Element}
    (hnamed : ∀ key, Declares config catalog d key → named key) :
    TypeMap.Growth named walk.types (declare config catalog walk d).value.types := by
  cases hdescribe : (Declaration.describeAny config catalog d.1 d.2).value with
  | none =>
    rw [value_declare_of_none hdescribe]
    exact TypeMap.Growth.refl _
  | some type =>
    rw [value_declare_of_some hdescribe]
    exact growth_enter (hnamed type.key ⟨type, hdescribe, rfl⟩)

/-- **A walk lets types grow**, those alone that its declarations are called like. -/
theorem growth_documents (config : Config) (catalog : Catalog) (start : TypeMap)
    (order : List Nat) :
    TypeMap.Growth (fun key => ∃ d ∈ catalog.declarationsOf order, Declares config catalog d key)
      start (documents config catalog start order).value.types := by
  rw [documents_eq_fold]
  refine Report.fold_induction
    (P := fun walk : Walk => TypeMap.Growth _ start walk.types)
    (fun walk d hd hgrowth => hgrowth.trans ?_) (TypeMap.Growth.refl start)
  exact growth_declare fun key hdeclares => ⟨d, hd, hdeclares⟩

end Walk

end WsdlTypes
