import WsdlTypes.Inheritance
/-!
# Ways up through the parents

A way up from a type names its parent, that one's parent, and so on (`Ascends`). Looking for
a loop finds none exactly where no way up meets a name twice (`parentCycle?_eq_none_iff`), and
where it finds one it names the first name that is met again (`parentCycle?_eq_some_iff`).
Where every parent is itself in the map, a map with more types in it adds no way up from the
types that there were (`Ascends.of_within`), and what a type inherits stays the same
(`flatten_of_within`).
-/

namespace WsdlTypes.TypeMap

/-- Every type stands under its own name. -/
def Keyed (types : TypeMap) : Prop :=
  ∀ key type, types.get? key = some type → type.key = key ∧ type.name = key.name

/-- Every type of a map stands in another one, too, the same and under the same name. -/
def Within (types types' : TypeMap) : Prop :=
  ∀ key type, types.get? key = some type → types'.get? key = some type

/-- Some names are the parents on the way up from a name, nearest first. -/
def Ascends (types : TypeMap) : ExpandedName → List ExpandedName → Prop
  | _, [] => True
  | key, parent :: path => types.parent? key = some parent ∧ types.Ascends parent path

/-- No way up meets a name twice. -/
def Acyclic (types : TypeMap) : Prop :=
  ∀ key path, types.Ascends key path → (key :: path).Nodup

/-- Some way up from a name meets a name twice. -/
def Revisits (types : TypeMap) (key : ExpandedName) : Prop :=
  ∃ path, types.Ascends key path ∧ ¬(key :: path).Nodup

/-- The first name that is met again on the way up from a name: the names before it are
different, and it is one of them. -/
def MeetsAgain (types : TypeMap) (key again : ExpandedName) : Prop :=
  ∃ path, types.Ascends key (path ++ [again]) ∧ (key :: path).Nodup ∧ again ∈ key :: path

variable {types types' types'' : TypeMap} {key parent again : ExpandedName}
variable {type : TypeDescriptor}

/-! ## Maps within maps -/

theorem keyed_empty : Keyed .empty := by
  intro key type h
  cases h

theorem Within.refl (types : TypeMap) : types.Within types := fun _ _ h => h

theorem Within.trans (h : types.Within types') (h' : types'.Within types'') :
    types.Within types'' := fun key type hget => h' key type (h key type hget)

theorem Within.mem_keys (h : types.Within types') (hkey : key ∈ types.keys) :
    key ∈ types'.keys := by
  obtain ⟨type, hget⟩ := SortedMap.mem_keys_iff.1 hkey
  exact SortedMap.mem_keys_iff.2 ⟨type, h key type hget⟩

/-- A type that was there keeps its parent. -/
theorem Within.parent?_eq (h : types.Within types') (hkey : key ∈ types.keys) :
    types'.parent? key = types.parent? key := by
  obtain ⟨type, hget⟩ := SortedMap.mem_keys_iff.1 hkey
  rw [parent?, parent?, hget, h key type hget]

/-- Entering a type under a new name keeps all that there is. -/
theorem within_insert (h : types.get? key = none) : types.Within (types.insert key type) := by
  intro k t hget
  rw [SortedMap.get?_insert, if_neg]
  · exact hget
  · rintro rfl
    rw [h] at hget
    cases hget

/-- What is entered under its own name leaves every type under its own name. -/
theorem Keyed.insert (h : types.Keyed) (hkey : type.key = key) (hname : type.name = key.name) :
    Keyed (SortedMap.insert types key type) := by
  intro k t hget
  rw [SortedMap.get?_insert] at hget
  split at hget
  · rename_i heq
    cases hget
    exact heq ▸ ⟨hkey, hname⟩
  · exact h k t hget

/-! ## Loops -/

theorem cycleFrom?_of_mem {visited : List ExpandedName} (h : key ∈ visited) :
    types.cycleFrom? visited key = some key := by
  rw [cycleFrom?, dif_pos h]

theorem cycleFrom?_of_parent?_eq_none {visited : List ExpandedName} (h : key ∉ visited)
    (hparent : types.parent? key = none) : types.cycleFrom? visited key = none := by
  rw [cycleFrom?, dif_neg h]
  split
  · rfl
  · rename_i heq
    rw [hparent] at heq
    cases heq

theorem cycleFrom?_of_parent?_eq_some {visited : List ExpandedName} (h : key ∉ visited)
    (hparent : types.parent? key = some parent) :
    types.cycleFrom? visited key = types.cycleFrom? (key :: visited) parent := by
  rw [cycleFrom?, dif_neg h]
  split
  · rename_i heq
    rw [hparent] at heq
    cases heq
  · rename_i heq
    rw [hparent] at heq
    cases heq
    rfl

/-- No loop is found exactly where no way up meets a name twice or one met before. -/
theorem cycleFrom?_eq_none_iff {visited : List ExpandedName} :
    types.cycleFrom? visited key = none ↔
      ∀ path, types.Ascends key path →
        (key :: path).Nodup ∧ ∀ name ∈ key :: path, name ∉ visited := by
  induction visited, key using cycleFrom?.induct types with
  | case1 visited key hmem =>
    rw [cycleFrom?_of_mem hmem]
    constructor
    · intro h
      cases h
    · intro h
      exact absurd hmem ((h [] trivial).2 key List.mem_cons_self)
  | case2 visited key hnew hparent =>
    rw [cycleFrom?_of_parent?_eq_none hnew hparent]
    refine ⟨fun _ path hpath => ?_, fun _ => rfl⟩
    cases path with
    | nil => simpa using hnew
    | cons next path =>
      rw [Ascends, hparent] at hpath
      cases hpath.1
  | case3 visited key hnew parent hparent ih =>
    rw [cycleFrom?_of_parent?_eq_some hnew hparent, ih]
    constructor
    · intro h path hpath
      cases path with
      | nil => simpa using hnew
      | cons next path =>
        rw [Ascends, hparent, Option.some.injEq] at hpath
        obtain ⟨rfl, hpath⟩ := hpath
        obtain ⟨hnodup, havoid⟩ := h path hpath
        refine ⟨List.nodup_cons.2 ⟨fun hmem => ?_, hnodup⟩, fun name hname => ?_⟩
        · exact havoid key hmem List.mem_cons_self
        · rcases List.mem_cons.1 hname with rfl | hname
          · exact hnew
          · exact fun hv => havoid name hname (List.mem_cons_of_mem _ hv)
    · intro h path hpath
      obtain ⟨hnodup, havoid⟩ := h (parent :: path) ⟨hparent, hpath⟩
      rw [List.nodup_cons] at hnodup
      refine ⟨hnodup.2, fun name hname => ?_⟩
      rw [List.mem_cons, not_or]
      exact ⟨fun heq => hnodup.1 (heq ▸ hname), havoid name (List.mem_cons_of_mem _ hname)⟩

/-- **No loop is found exactly where no way up from the name meets a name twice.** -/
theorem parentCycle?_eq_none_iff :
    types.parentCycle? key = none ↔ ∀ path, types.Ascends key path → (key :: path).Nodup := by
  rw [parentCycle?, cycleFrom?_eq_none_iff]
  exact ⟨fun h path hpath => (h path hpath).1,
    fun h path hpath => ⟨h path hpath, fun _ _ => List.not_mem_nil⟩⟩

/-- Where a loop is found there is a way up that meets a name twice. -/
theorem exists_loop {closedBy : ExpandedName} (h : types.parentCycle? key = some closedBy) :
    ∃ path, types.Ascends key path ∧ ¬(key :: path).Nodup := by
  refine Classical.byContradiction fun hnone => ?_
  have hacyclic : types.parentCycle? key = none := parentCycle?_eq_none_iff.2 fun path hpath =>
    Classical.byContradiction fun htwice => hnone ⟨path, hpath, htwice⟩
  rw [hacyclic] at h
  cases h

/-- And the other way round. -/
theorem exists_parentCycle? {path : List ExpandedName} (h : types.Ascends key path)
    (htwice : ¬(key :: path).Nodup) : ∃ closedBy, types.parentCycle? key = some closedBy := by
  cases hloop : types.parentCycle? key with
  | none => exact absurd (parentCycle?_eq_none_iff.1 hloop path h) htwice
  | some closedBy => exact ⟨closedBy, rfl⟩

theorem parentCycle?_isSome_iff : (types.parentCycle? key).isSome = true ↔ types.Revisits key := by
  rw [Option.isSome_iff_exists]
  constructor
  · rintro ⟨closedBy, h⟩
    exact exists_loop h
  · rintro ⟨path, hpath, htwice⟩
    exact exists_parentCycle? hpath htwice

instance (types : TypeMap) (key : ExpandedName) : Decidable (types.Revisits key) :=
  decidable_of_iff _ parentCycle?_isSome_iff

/-- A name is found where those before it on the way up are different and new, and it is one of
them or was met before. -/
theorem cycleFrom?_eq_some_iff {visited : List ExpandedName} :
    types.cycleFrom? visited key = some again ↔
      ∃ front path, key :: path = front ++ [again] ∧ types.Ascends key path ∧ front.Nodup ∧
        (∀ name ∈ front, name ∉ visited) ∧ (again ∈ front ∨ again ∈ visited) := by
  induction visited, key using cycleFrom?.induct types with
  | case1 visited key hmem =>
    rw [cycleFrom?_of_mem hmem, Option.some.injEq]
    constructor
    · rintro rfl
      exact ⟨[], [], rfl, trivial, List.nodup_nil, fun _ h => absurd h List.not_mem_nil,
        Or.inr hmem⟩
    · rintro ⟨front, path, heq, -, -, hnew, -⟩
      cases front with
      | nil => exact (List.cons.inj heq).1
      | cons first front =>
        obtain ⟨rfl, -⟩ := List.cons.inj heq
        exact absurd hmem (hnew key List.mem_cons_self)
  | case2 visited key hnew hparent =>
    rw [cycleFrom?_of_parent?_eq_none hnew hparent]
    constructor
    · intro h
      cases h
    · rintro ⟨front, path, heq, hpath, -, -, hagain⟩
      have hnil : path = [] := by
        cases path with
        | nil => rfl
        | cons next path =>
          rw [Ascends, hparent] at hpath
          cases hpath.1
      subst hnil
      obtain ⟨rfl, hkey⟩ := List.append_eq_singleton_iff.1 heq.symm |>.resolve_right (by simp)
      rw [List.singleton_inj.1 hkey] at hagain
      exact absurd (hagain.resolve_left List.not_mem_nil) hnew
  | case3 visited key hnew parent hparent ih =>
    rw [cycleFrom?_of_parent?_eq_some hnew hparent, ih]
    have hcons : ∀ front : List ExpandedName,
        again ∈ key :: front ∨ again ∈ visited ↔ again ∈ front ∨ again ∈ key :: visited :=
      fun front => by simp only [List.mem_cons, or_assoc, or_left_comm]
    constructor
    · rintro ⟨front, path, heq, hpath, hnodup, havoid, hagain⟩
      refine ⟨key :: front, parent :: path, by rw [heq]; rfl, ⟨hparent, hpath⟩,
        List.nodup_cons.2 ⟨fun hmem => havoid key hmem List.mem_cons_self, hnodup⟩,
        fun name hname => ?_, (hcons front).2 hagain⟩
      rcases List.mem_cons.1 hname with rfl | hname
      · exact hnew
      · exact fun hold => havoid name hname (List.mem_cons_of_mem _ hold)
    · rintro ⟨front, path, heq, hpath, hnodup, havoid, hagain⟩
      cases front with
      | nil =>
        obtain ⟨rfl, -⟩ := List.cons.inj heq
        exact absurd (hagain.resolve_left List.not_mem_nil) hnew
      | cons first front =>
        obtain ⟨rfl, hsame⟩ := List.cons.inj heq
        obtain ⟨hfirst, hrest⟩ := List.nodup_cons.1 hnodup
        cases path with
        | nil => exact absurd hsame.symm (List.append_ne_nil_of_right_ne_nil _ (by simp))
        | cons next path =>
          rw [Ascends, hparent, Option.some.injEq] at hpath
          obtain ⟨rfl, hpath⟩ := hpath
          refine ⟨front, path, hsame, hpath, hrest, fun name hname => ?_, (hcons front).1 hagain⟩
          rw [List.mem_cons, not_or]
          exact ⟨fun heq => hfirst (heq ▸ hname), havoid name (List.mem_cons_of_mem _ hname)⟩

/-- **What is found is the first name that is met again**, wherever the loop is entered. -/
theorem parentCycle?_eq_some_iff :
    types.parentCycle? key = some again ↔ types.MeetsAgain key again := by
  rw [parentCycle?, cycleFrom?_eq_some_iff]
  constructor
  · rintro ⟨front, path, heq, hpath, hnodup, -, hagain⟩
    cases front with
    | nil => simp at hagain
    | cons first front =>
      obtain ⟨rfl, rfl⟩ := List.cons.inj heq
      exact ⟨front, hpath, hnodup, hagain.resolve_right List.not_mem_nil⟩
  · rintro ⟨path, hpath, hnodup, hagain⟩
    exact ⟨key :: path, path ++ [again], rfl, hpath, hnodup, fun _ _ => List.not_mem_nil,
      Or.inl hagain⟩

/-- A name that is none of a type leads nowhere. -/
theorem Ascends.eq_nil {path : List ExpandedName} (h : types.Ascends key path)
    (hkey : key ∉ types.keys) : path = [] := by
  cases path with
  | nil => rfl
  | cons parent path => exact absurd (mem_keys_of_parent? h.1) hkey

/-- A way up from a type that was there is not longer for the types that came later, where
every parent was there. -/
theorem Ascends.of_within {path : List ExpandedName} (hwithin : types.Within types')
    (hclosed : ∀ key parent, types.parent? key = some parent → parent ∈ types.keys)
    (hkey : key ∈ types.keys) (h : types'.Ascends key path) : types.Ascends key path := by
  induction path generalizing key with
  | nil => trivial
  | cons parent path ih =>
    obtain ⟨hparent, hpath⟩ := h
    rw [hwithin.parent?_eq hkey] at hparent
    exact ⟨hparent, ih (hclosed key parent hparent) hpath⟩

/-! ## What a type inherits -/

section

variable {all visited : List ExpandedName} {next : TypeDescriptor} {hall : type.key ∈ all}
variable {hvalues : ∀ t ∈ types.values, t.key ∈ all}

theorem ancestryFrom_of_mem (h : type.key ∈ visited) :
    types.ancestryFrom all visited type hall hvalues = .error (.inheritanceLoop type.key) := by
  rw [ancestryFrom, dif_pos h]

theorem ancestryFrom_of_parent_eq_none (h : type.key ∉ visited) (hparent : type.parent = none) :
    types.ancestryFrom all visited type hall hvalues = .ok [type] := by
  rw [ancestryFrom, dif_neg h]
  simp only [hparent]

theorem ancestryFrom_of_get?_eq_none (h : type.key ∉ visited) (hparent : type.parent = some parent)
    (hget : types.get? parent = none) :
    types.ancestryFrom all visited type hall hvalues = .error (.unknownType parent) := by
  rw [ancestryFrom, dif_neg h]
  simp only [hparent]
  split
  · rfl
  · rename_i heq
    rw [hget] at heq
    cases heq

theorem ancestryFrom_of_get?_eq_some (h : type.key ∉ visited) (hparent : type.parent = some parent)
    (hget : types.get? parent = some next) :
    types.ancestryFrom all visited type hall hvalues
      = (types.ancestryFrom all (type.key :: visited) next
          (hvalues next (mem_values_of_get? hget)) hvalues).map (type :: ·) := by
  rw [ancestryFrom, dif_neg h]
  simp only [hparent]
  split
  · rename_i heq
    rw [hget] at heq
    cases heq
  · rename_i heq
    rw [hget] at heq
    cases heq
    rfl

end

theorem map_eq_ok_iff {ε α β : Type} {x : Except ε α} {f : α → β} {b : β} :
    x.map f = .ok b ↔ ∃ a, x = .ok a ∧ f a = b := by
  cases x <;> simp [Except.map]

theorem map_eq_error_iff {ε α β : Type} {x : Except ε α} {f : α → β} {cause : ε} :
    x.map f = .error cause ↔ x = .error cause := by
  cases x <;> simp [Except.map]

/-- The way up from a type is the same where there are more types. -/
theorem ancestryFrom_of_within (hwithin : types.Within types') {all visited : List ExpandedName}
    {hall : type.key ∈ all} {hvalues : ∀ t ∈ types.values, t.key ∈ all}
    {chain : List TypeDescriptor}
    (h : types.ancestryFrom all visited type hall hvalues = .ok chain)
    {all' : List ExpandedName} (hall' : type.key ∈ all')
    (hvalues' : ∀ t ∈ types'.values, t.key ∈ all') :
    types'.ancestryFrom all' visited type hall' hvalues' = .ok chain := by
  induction visited, type, hall using ancestryFrom.induct types all hvalues
    generalizing chain with
  | case1 visited type hall hmem =>
    rw [ancestryFrom_of_mem hmem] at h
    cases h
  | case2 visited type hall hnew hparent =>
    rwa [ancestryFrom_of_parent_eq_none hnew hparent] at h ⊢
  | case3 visited type hall hnew parent hparent hget =>
    rw [ancestryFrom_of_get?_eq_none hnew hparent hget] at h
    cases h
  | case4 visited type hall hnew parent hparent next hget ih =>
    rw [ancestryFrom_of_get?_eq_some hnew hparent hget, map_eq_ok_iff] at h
    obtain ⟨rest, hrest, rfl⟩ := h
    rw [ancestryFrom_of_get?_eq_some hnew hparent (hwithin parent next hget), map_eq_ok_iff]
    exact ⟨rest, ih hrest _, rfl⟩

/-- **What a type inherits is the same where there are more types.** -/
theorem flatten_of_within (hwithin : types.Within types') {parameters : List Parameter}
    (h : types.flatten type = .ok parameters) : types'.flatten type = .ok parameters := by
  obtain ⟨chain, hchain, heq⟩ := map_eq_ok_iff.1 h
  exact map_eq_ok_iff.2 ⟨chain, ancestryFrom_of_within hwithin hchain _ _, heq⟩

end WsdlTypes.TypeMap
