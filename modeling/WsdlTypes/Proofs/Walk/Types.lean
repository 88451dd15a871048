import WsdlTypes.Proofs.Inheritance
import WsdlTypes.Proofs.Walk.Declarations
/-!
# What a walk does to the map of types

A declaration under a new name is entered as it is described; one under a name that is taken
is merged into the type that is there, and this is reported. So a walk keeps every name that
there was, lists as fresh the names that came with it (`Sound`), and has as names those that
there were and those of the declarations it met (`mem_keys_documents`). A walk that reports
nothing merged nothing: every type that there was is as it was (`within_documents`).
-/

namespace WsdlTypes

namespace Walk

variable {config : Config} {catalog : Catalog} {schema : Schema} {e : Xml.Element}
variable {walk : Walk} {type older : TypeDescriptor} {start : TypeMap}

/-! ## One declaration -/

theorem enter_of_get?_eq_none (h : walk.types.get? type.key = none) :
    enter config schema e walk type
      = pure {
          types := walk.types.insert type.key type
          fresh := walk.fresh ++ [type.key] } := by
  simp only [enter, h]

/-- A declaration under a name that is taken changes the type of this name alone. -/
theorem value_enter_of_get?_eq_some (h : walk.types.get? type.key = some older) :
    (enter config schema e walk type).value
      = { walk with
          types := walk.types.insert type.key
            (dropParent config schema e (older.merge type)).value } := by
  simp only [enter, h]
  rfl

/-- And it is reported. -/
theorem findings_enter_of_get?_eq_some (h : walk.types.get? type.key = some older) :
    (enter config schema e walk type).findings ≠ [] := by
  simp only [enter, h]
  exact List.cons_ne_nil _ _

/-- A type with a simple value loses its parent, and no type anything else. -/
theorem value_dropParent :
    (dropParent config schema e type).value
      = if (type.property? config.valueName).isSome then { type with parent := none }
        else type := by
  unfold dropParent
  split
  · rename_i hproperty _
    simp [hproperty]
  · rename_i hnone
    split
    · rename_i hproperty
      obtain ⟨property, hproperty⟩ := Option.isSome_iff_exists.1 hproperty
      obtain ⟨key, location, package, name, documentation, parent, properties⟩ := type
      cases parent with
      | none => rfl
      | some parent => exact (hnone property parent hproperty rfl).elim
    · rfl

theorem key_dropParent : (dropParent config schema e type).value.key = type.key := by
  rw [value_dropParent]
  split <;> rfl

theorem name_dropParent : (dropParent config schema e type).value.name = type.name := by
  rw [value_dropParent]
  split <;> rfl

theorem package_dropParent : (dropParent config schema e type).value.package = type.package := by
  rw [value_dropParent]
  split <;> rfl

/-- Where nothing is reported, the name was new. -/
theorem get?_eq_none_of_findings_enter (h : (enter config schema e walk type).findings = []) :
    walk.types.get? type.key = none := by
  cases hget : walk.types.get? type.key with
  | none => rfl
  | some older => exact absurd h (findings_enter_of_get?_eq_some hget)

theorem mem_keys_enter {key : ExpandedName} :
    key ∈ (enter config schema e walk type).value.types.keys
      ↔ key = type.key ∨ key ∈ walk.types.keys := by
  cases hget : walk.types.get? type.key with
  | none =>
    rw [enter_of_get?_eq_none hget]
    exact SortedMap.mem_keys_insert
  | some older =>
    rw [value_enter_of_get?_eq_some hget]
    exact SortedMap.mem_keys_insert

theorem value_declare_of_none {d : Schema × Xml.Element}
    (h : (Declaration.describeAny config catalog d.1 d.2).value = none) :
    (declare config catalog walk d).value = walk := by
  simp only [declare, enterDescribed, Report.value_bind, h, Report.value_pure]

theorem value_declare_of_some {d : Schema × Xml.Element}
    (h : (Declaration.describeAny config catalog d.1 d.2).value = some type) :
    (declare config catalog walk d).value = (enter config d.1 d.2 walk type).value := by
  simp only [declare, enterDescribed, Report.value_bind, h]

theorem findings_enter_of_declare {d : Schema × Xml.Element}
    (h : (Declaration.describeAny config catalog d.1 d.2).value = some type)
    (hclean : (declare config catalog walk d).findings = []) :
    (enter config d.1 d.2 walk type).findings = [] := by
  simp only [declare, enterDescribed, Report.findings_bind, h] at hclean
  exact (List.append_eq_nil_iff.1 hclean).2

/-! ## A whole walk -/

/-- What a walk that began with a map of types has come to. -/
structure Sound (start : TypeMap) (walk : Walk) : Prop where
  keyed : walk.types.Keyed
  kept : ∀ key ∈ start.keys, key ∈ walk.types.keys
  fresh : ∀ key, key ∈ walk.fresh ↔ key ∈ walk.types.keys ∧ key ∉ start.keys

theorem Sound.begin (h : start.Keyed) : Sound start { types := start } where
  keyed := h
  kept _ hkey := hkey
  fresh key := by simp

/-- **Entering a descriptor keeps the walk sound**, be its name new or taken. -/
theorem Sound.enter (h : Sound start walk) (hname : type.name = type.key.name) :
    Sound start (enter config schema e walk type).value := by
  have hkept : ∀ key ∈ start.keys,
      key ∈ (Walk.enter config schema e walk type).value.types.keys := fun key hkey =>
    mem_keys_enter.2 (Or.inr (h.kept key hkey))
  cases hget : walk.types.get? type.key with
  | none =>
    rw [enter_of_get?_eq_none hget] at hkept ⊢
    refine ⟨h.keyed.insert rfl hname, hkept, fun key => ?_⟩
    have hnew : type.key ∉ walk.types.keys := SortedMap.get?_eq_none_iff.1 hget
    rw [Report.value_pure, SortedMap.mem_keys_insert, List.mem_append, List.mem_singleton,
      h.fresh key]
    constructor
    · rintro (⟨hmem, hstart⟩ | rfl)
      · exact ⟨Or.inr hmem, hstart⟩
      · exact ⟨Or.inl rfl, fun hstart => hnew (h.kept _ hstart)⟩
    · rintro ⟨rfl | hmem, hstart⟩
      · exact Or.inr rfl
      · exact Or.inl ⟨hmem, hstart⟩
  | some older =>
    rw [value_enter_of_get?_eq_some hget] at hkept ⊢
    obtain ⟨holder, holdername⟩ := h.keyed _ _ hget
    refine ⟨h.keyed.insert ?_ ?_, hkept, fun key => ?_⟩
    · rw [key_dropParent, TypeDescriptor.key_merge, holder]
    · rw [name_dropParent, TypeDescriptor.name_merge, holdername]
    · -- The name is an old one, so the names are the same as before.
      have hold : type.key ∈ walk.types.keys := SortedMap.mem_keys_iff.2 ⟨older, hget⟩
      rw [SortedMap.mem_keys_insert, h.fresh key]
      constructor
      · rintro ⟨hmem, hstart⟩
        exact ⟨Or.inr hmem, hstart⟩
      · rintro ⟨rfl | hmem, hstart⟩
        · exact ⟨hold, hstart⟩
        · exact ⟨hmem, hstart⟩

theorem Sound.declare (h : Sound start walk) (d : Schema × Xml.Element) :
    Sound start (declare config catalog walk d).value := by
  cases hdescribe : (Declaration.describeAny config catalog d.1 d.2).value with
  | none => rwa [value_declare_of_none hdescribe]
  | some type =>
    rw [value_declare_of_some hdescribe]
    obtain ⟨name, -, hkey, hname⟩ := Declaration.key_of_describeAny hdescribe
    exact h.enter (by rw [hname, hkey])

/-- **A walk is sound.** -/
theorem sound_documents (h : start.Keyed) (order : List Nat) :
    Sound start (documents config catalog start order).value := by
  rw [documents_eq_fold]
  exact Report.fold_induction (fun walk d _ hsound => hsound.declare d) (Sound.begin h)

/-- A declaration has a descriptor under a name. -/
def Declares (config : Config) (catalog : Catalog) (d : Schema × Xml.Element)
    (key : ExpandedName) : Prop :=
  ∃ type, (Declaration.describeAny config catalog d.1 d.2).value = some type ∧ type.key = key

theorem mem_keys_declare {d : Schema × Xml.Element} {key : ExpandedName} :
    key ∈ (declare config catalog walk d).value.types.keys
      ↔ key ∈ walk.types.keys ∨ Declares config catalog d key := by
  unfold Declares
  cases hdescribe : (Declaration.describeAny config catalog d.1 d.2).value with
  | none => simp [value_declare_of_none hdescribe]
  | some type =>
    rw [value_declare_of_some hdescribe, mem_keys_enter]
    simp only [Option.some.injEq, exists_eq_left', eq_comm, or_comm]

/-- **The names after a walk** are those that there were and those of the declarations that
have a descriptor. -/
theorem mem_keys_documents {order : List Nat} {key : ExpandedName} :
    key ∈ (documents config catalog start order).value.types.keys
      ↔ key ∈ start.keys ∨ ∃ d ∈ catalog.declarationsOf order, Declares config catalog d key := by
  rw [documents_eq_fold]
  constructor
  · refine Report.fold_induction
      (P := fun walk : Walk => key ∈ walk.types.keys → key ∈ start.keys ∨
        ∃ d ∈ catalog.declarationsOf order, Declares config catalog d key)
      (fun walk d hd ih hmem => ?_) Or.inl
    rcases mem_keys_declare.1 hmem with hold | hnew
    · exact ih hold
    · exact Or.inr ⟨d, hd, hnew⟩
  · have hkeep : ∀ (walk : Walk), ∀ d ∈ catalog.declarationsOf order, key ∈ walk.types.keys →
        key ∈ (declare config catalog walk d).value.types.keys := fun walk d _ hmem =>
      mem_keys_declare.2 (Or.inl hmem)
    rintro (hold | ⟨d, hd, hnew⟩)
    · exact Report.fold_induction (P := fun walk : Walk => key ∈ walk.types.keys) hkeep hold
    · exact Report.fold_of_mem (P := fun walk : Walk => key ∈ walk.types.keys) hd
        (fun walk => mem_keys_declare.2 (Or.inr hnew)) hkeep

/-- **A walk that reports nothing changes no type that there was.** -/
theorem within_documents {order : List Nat}
    (hclean : (documents config catalog start order).findings = []) :
    start.Within (documents config catalog start order).value.types := by
  rw [documents_eq_fold] at hclean ⊢
  refine Report.fold_induction_of_findings_eq_nil (P := fun walk : Walk => start.Within walk.types)
    hclean (fun walk d _ hwithin hstep => ?_) (TypeMap.Within.refl start)
  cases hdescribe : (Declaration.describeAny config catalog d.1 d.2).value with
  | none => rwa [value_declare_of_none hdescribe]
  | some type =>
    have hnone := get?_eq_none_of_findings_enter (findings_enter_of_declare hdescribe hstep)
    rw [value_declare_of_some hdescribe, enter_of_get?_eq_none hnone]
    exact hwithin.trans (TypeMap.within_insert hnone)

end Walk

end WsdlTypes
