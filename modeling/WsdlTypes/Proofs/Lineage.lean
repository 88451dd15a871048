import Mathlib.Data.List.Nodup
import Mathlib.Data.List.Perm.Subperm
import WsdlTypes.Proofs.Inheritance
/-!
# Lineages

The way up from a type ends in one of three ways: at a type without a parent, and then the types
on it are its lineage (`Lineage`); at a name that no type has (`LeadsOut`); or at a name that was
met before (`MeetsAgain`). What a type inherits is its lineage, where no two types in this carry
one name (`ancestry_eq_ok_iff`). Looking for a loop goes by the names of the parents, collecting
what is inherited by the names that the types carry. In a map whose types carry their own names the
two find the same (`flatten_outcome`).
-/

namespace WsdlTypes.TypeMap

/-- Every type carries the name that it stands under. -/
def OwnNamed (types : TypeMap) : Prop :=
  ∀ key type, types.get? key = some type → type.key = key

/-- Some types are one and all that it inherits from, nearest first: the parent of each is the next
one, and the last has none. -/
inductive Lineage (types : TypeMap) : TypeDescriptor → List TypeDescriptor → Prop where
  | last {type : TypeDescriptor} (hparent : type.parent = none) : Lineage types type [type]
  | link {type next : TypeDescriptor} {parent : ExpandedName} {chain : List TypeDescriptor}
      (hparent : type.parent = some parent) (hget : types.get? parent = some next)
      (hnext : Lineage types next chain) : Lineage types type (type :: chain)

/-- The way up from a name comes, over names that are all different, to one that no type has. -/
def LeadsOut (types : TypeMap) (key missing : ExpandedName) : Prop :=
  ∃ path, types.Ascends key (path ++ [missing]) ∧ (key :: path).Nodup ∧ missing ∉ types.keys

variable {types : TypeMap} {type next : TypeDescriptor} {key parent again missing : ExpandedName}
variable {chain chain' : List TypeDescriptor}

instance (types : TypeMap) : Decidable types.OwnNamed :=
  decidable_of_iff (∀ entry ∈ types.entries, entry.2.key = entry.1)
    ⟨fun h key type hget => h (key, type) (SortedMap.get?_eq_some_iff.1 hget),
      fun h entry hentry => h entry.1 entry.2 (SortedMap.get?_eq_some_iff.2 hentry)⟩

theorem parent?_of_get? (h : types.get? key = some type) : types.parent? key = type.parent := by
  rw [parent?, h, Option.bind_some]

/-- A way up with an end goes on from the parent, or the parent is its end. -/
theorem ascends_concat_iff (hparent : types.parent? key = some parent) {path : List ExpandedName} :
    types.Ascends key (path ++ [missing]) ↔
      path = [] ∧ parent = missing ∨
        ∃ rest, path = parent :: rest ∧ types.Ascends parent (rest ++ [missing]) := by
  cases path with
  | nil => simp [Ascends, hparent]
  | cons first path =>
    rw [List.cons_append, Ascends, hparent, Option.some.injEq]
    constructor
    · rintro ⟨rfl, hpath⟩
      exact Or.inr ⟨path, rfl, hpath⟩
    · rintro (⟨hnil, -⟩ | ⟨rest, heq, hrest⟩)
      · cases hnil
      · obtain ⟨rfl, rfl⟩ := List.cons.inj heq
        exact ⟨rfl, hrest⟩

theorem not_ascends_concat (hparent : types.parent? key = none) {path : List ExpandedName} :
    ¬types.Ascends key (path ++ [missing]) := by
  cases path <;> simp [Ascends, hparent]

/-! ## One lineage -/

theorem lineage_iff_of_parent_eq_none (hparent : type.parent = none) :
    types.Lineage type chain ↔ chain = [type] := by
  constructor
  · intro h
    cases h with
    | last => rfl
    | link hsome =>
      rw [hparent] at hsome
      cases hsome
  · rintro rfl
    exact .last hparent

theorem lineage_iff_of_parent_eq_some (hparent : type.parent = some parent) :
    types.Lineage type chain ↔
      ∃ next rest, types.get? parent = some next ∧ types.Lineage next rest ∧
        chain = type :: rest := by
  constructor
  · intro h
    cases h with
    | last hnone =>
      rw [hparent] at hnone
      cases hnone
    | link hsome hget hnext =>
      rw [hparent, Option.some.injEq] at hsome
      exact ⟨_, _, hsome ▸ hget, hnext, rfl⟩
  · rintro ⟨next, rest, hget, hnext, rfl⟩
    exact .link hparent hget hnext

theorem Lineage.mem (h : types.Lineage type chain) : type ∈ chain := by
  cases h with
  | last | link => exact List.mem_cons_self

/-- **A type has one lineage at most.** -/
theorem Lineage.unique (h : types.Lineage type chain) (h' : types.Lineage type chain') :
    chain = chain' := by
  induction h generalizing chain' with
  | last hparent => exact ((lineage_iff_of_parent_eq_none hparent).1 h').symm
  | link hparent hget _ ih =>
    obtain ⟨next, rest, hget', hnext, rfl⟩ := (lineage_iff_of_parent_eq_some hparent).1 h'
    rw [hget, Option.some.injEq] at hget'
    subst hget'
    rw [ih hnext]

/-- A type in a lineage has the rest of it for its own. -/
theorem Lineage.exists_of_mem (h : types.Lineage type chain) {other : TypeDescriptor}
    (hmem : other ∈ chain) : ∃ rest, types.Lineage other rest ∧ rest.length ≤ chain.length := by
  induction h with
  | last hparent =>
    rw [List.mem_singleton.1 hmem]
    exact ⟨_, .last hparent, Nat.le_refl _⟩
  | link hparent hget hnext ih =>
    rcases List.mem_cons.1 hmem with rfl | hmem
    · exact ⟨_, .link hparent hget hnext, Nat.le_refl _⟩
    · obtain ⟨rest, hrest, hlength⟩ := ih hmem
      exact ⟨rest, hrest, Nat.le_succ_of_le hlength⟩

/-- The types in the lineage of a type of the map are types of the map. -/
theorem Lineage.get?_of_mem (h : types.Lineage type chain) (hown : types.OwnNamed)
    (hget : types.get? type.key = some type) {other : TypeDescriptor} (hmem : other ∈ chain) :
    types.get? other.key = some other := by
  induction h with
  | last =>
    rw [List.mem_singleton.1 hmem]
    exact hget
  | link _ hparent hnext ih =>
    rcases List.mem_cons.1 hmem with rfl | hmem
    · exact hget
    · refine ih ?_ hmem
      rwa [hown _ _ hparent]

/-- **No name comes twice in a lineage** where every type carries its own: the type that it belongs
to would have a lineage shorter than its own. -/
theorem Lineage.nodup_keys (h : types.Lineage type chain) (hown : types.OwnNamed)
    (hget : types.get? type.key = some type) : (chain.map TypeDescriptor.key).Nodup := by
  induction h with
  | last => exact List.nodup_singleton _
  | @link type next parent chain hparent hnextget hnext ih =>
    have hnextget' : types.get? next.key = some next := by rwa [hown _ _ hnextget]
    refine List.nodup_cons.2 ⟨fun hmem => ?_, ih hnextget'⟩
    obtain ⟨other, hother, hkey⟩ := List.mem_map.1 hmem
    have hsame := hnext.get?_of_mem hown hnextget' hother
    rw [hkey, hget, Option.some.injEq] at hsame
    obtain ⟨rest, hrest, hlength⟩ := hnext.exists_of_mem hother
    have howned : types.Lineage other (type :: chain) := hsame ▸ .link hparent hnextget hnext
    rw [hrest.unique howned, List.length_cons] at hlength
    omega

/-! ## What is collected on the way up -/

variable {all visited : List ExpandedName}

/-- What is collected is the lineage, where the names in it are different and were not met
before. -/
theorem ancestryFrom_eq_ok_iff {hall : type.key ∈ all}
    {hvalues : ∀ t ∈ types.values, t.key ∈ all} :
    types.ancestryFrom all visited type hall hvalues = .ok chain ↔
      types.Lineage type chain ∧ (chain.map TypeDescriptor.key).Nodup ∧
        ∀ t ∈ chain, t.key ∉ visited := by
  induction visited, type, hall using ancestryFrom.induct types all hvalues
    generalizing chain with
  | case1 visited type hall hmem =>
    rw [ancestryFrom_of_mem hmem]
    constructor
    · intro h
      cases h
    · rintro ⟨hlineage, -, hnew⟩
      exact absurd hmem (hnew _ hlineage.mem)
  | case2 visited type hall hnew hparent =>
    rw [ancestryFrom_of_parent_eq_none hnew hparent, Except.ok.injEq,
      lineage_iff_of_parent_eq_none hparent]
    constructor
    · rintro rfl
      refine ⟨rfl, List.nodup_singleton _, fun t ht => ?_⟩
      rwa [List.mem_singleton.1 ht]
    · rintro ⟨rfl, -⟩
      rfl
  | case3 visited type hall hnew parent hparent hget =>
    rw [ancestryFrom_of_get?_eq_none hnew hparent hget]
    constructor
    · intro h
      cases h
    · rintro ⟨hlineage, -⟩
      obtain ⟨next, -, hsome, -⟩ := (lineage_iff_of_parent_eq_some hparent).1 hlineage
      rw [hget] at hsome
      cases hsome
  | case4 visited type hall hnew parent hparent next hget ih =>
    rw [ancestryFrom_of_get?_eq_some hnew hparent hget, map_eq_ok_iff]
    constructor
    · rintro ⟨rest, hrest, rfl⟩
      obtain ⟨hlineage, hnodup, havoid⟩ := ih.1 hrest
      refine ⟨.link hparent hget hlineage, List.nodup_cons.2 ⟨fun hmem => ?_, hnodup⟩,
        fun t ht => ?_⟩
      · obtain ⟨t, ht, hkey⟩ := List.mem_map.1 hmem
        exact havoid t ht (hkey ▸ List.mem_cons_self)
      · rcases List.mem_cons.1 ht with rfl | ht
        · exact hnew
        · exact fun hold => havoid t ht (List.mem_cons_of_mem _ hold)
    · rintro ⟨hlineage, hnodup, havoid⟩
      obtain ⟨next', rest, hget', hnext, rfl⟩ := (lineage_iff_of_parent_eq_some hparent).1 hlineage
      rw [hget, Option.some.injEq] at hget'
      subst hget'
      obtain ⟨hfirst, hrest⟩ := List.nodup_cons.1 hnodup
      refine ⟨rest, ih.2 ⟨hnext, hrest, fun t ht => ?_⟩, rfl⟩
      rw [List.mem_cons, not_or]
      exact ⟨fun heq => hfirst (heq ▸ List.mem_map_of_mem ht),
        havoid t (List.mem_cons_of_mem _ ht)⟩

/-- **What a type inherits is its lineage**, where no two types in it carry one name. -/
theorem ancestry_eq_ok_iff :
    types.ancestry type = .ok chain ↔
      types.Lineage type chain ∧ (chain.map TypeDescriptor.key).Nodup := by
  rw [ancestry, ancestryFrom_eq_ok_iff]
  exact ⟨fun h => ⟨h.1, h.2.1⟩, fun h => ⟨h.1, h.2, fun _ _ => List.not_mem_nil⟩⟩

/-! ## Why there may be none -/

/-- Collecting fails for a loop or for a name that no type has. -/
theorem cause_of_ancestryFrom {hall : type.key ∈ all} {hvalues : ∀ t ∈ types.values, t.key ∈ all}
    {cause : OperationError}
    (h : types.ancestryFrom all visited type hall hvalues = .error cause) :
    (∃ again, cause = .inheritanceLoop again) ∨ ∃ missing, cause = .unknownType missing := by
  induction visited, type, hall using ancestryFrom.induct types all hvalues with
  | case1 visited type hall hmem =>
    rw [ancestryFrom_of_mem hmem, Except.error.injEq] at h
    exact Or.inl ⟨_, h.symm⟩
  | case2 visited type hall hnew hparent =>
    rw [ancestryFrom_of_parent_eq_none hnew hparent] at h
    cases h
  | case3 visited type hall hnew parent hparent hget =>
    rw [ancestryFrom_of_get?_eq_none hnew hparent hget, Except.error.injEq] at h
    exact Or.inr ⟨_, h.symm⟩
  | case4 visited type hall hnew parent hparent next hget ih =>
    rw [ancestryFrom_of_get?_eq_some hnew hparent hget, map_eq_error_iff] at h
    exact ih h

/-- **Both find the same loop**, when they met the same names of types before. -/
theorem ancestryFrom_eq_loop_iff (hown : types.OwnNamed) {hall : type.key ∈ all}
    {hvalues : ∀ t ∈ types.values, t.key ∈ all} (hvisited : visited ⊆ types.keys)
    (hget : types.get? type.key = some type) :
    types.ancestryFrom all visited type hall hvalues = .error (.inheritanceLoop again) ↔
      types.cycleFrom? visited type.key = some again := by
  induction visited, type, hall using ancestryFrom.induct types all hvalues with
  | case1 visited type hall hmem =>
    rw [ancestryFrom_of_mem hmem, cycleFrom?_of_mem hmem]
    simp
  | case2 visited type hall hnew hparent =>
    rw [ancestryFrom_of_parent_eq_none hnew hparent,
      cycleFrom?_of_parent?_eq_none hnew ((parent?_of_get? hget).trans hparent)]
    simp
  | case3 visited type hall hnew parent hparent hnone =>
    -- A name that no type has was not met before, and nothing lies above it.
    have hkeys : parent ∉ types.keys := SortedMap.get?_eq_none_iff.1 hnone
    have hmem : type.key ∈ types.keys := SortedMap.mem_keys_iff.2 ⟨type, hget⟩
    have hfirst : parent ∉ type.key :: visited := by
      rw [List.mem_cons, not_or]
      exact ⟨fun heq => hkeys (heq ▸ hmem), fun hold => hkeys (hvisited hold)⟩
    have hend : types.parent? parent = none := by rw [parent?, hnone, Option.bind_none]
    rw [ancestryFrom_of_get?_eq_none hnew hparent hnone,
      cycleFrom?_of_parent?_eq_some hnew ((parent?_of_get? hget).trans hparent),
      cycleFrom?_of_parent?_eq_none hfirst hend]
    simp
  | case4 visited type hall hnew parent hparent next hnext ih =>
    have hmem : type.key ∈ types.keys := SortedMap.mem_keys_iff.2 ⟨type, hget⟩
    have hkey : next.key = parent := hown _ _ hnext
    rw [ancestryFrom_of_get?_eq_some hnew hparent hnext, map_eq_error_iff,
      cycleFrom?_of_parent?_eq_some hnew ((parent?_of_get? hget).trans hparent),
      ih (List.cons_subset.2 ⟨hmem, hvisited⟩) (by rwa [hkey]), hkey]

/-- **A name that no type has is found** where the way up comes to it, over names that are
different and were not met before. -/
theorem ancestryFrom_eq_unknown_iff (hown : types.OwnNamed) {hall : type.key ∈ all}
    {hvalues : ∀ t ∈ types.values, t.key ∈ all} (hget : types.get? type.key = some type) :
    types.ancestryFrom all visited type hall hvalues = .error (.unknownType missing) ↔
      ∃ path, types.Ascends type.key (path ++ [missing]) ∧ (type.key :: path).Nodup ∧
        (∀ name ∈ type.key :: path, name ∉ visited) ∧ missing ∉ types.keys := by
  induction visited, type, hall using ancestryFrom.induct types all hvalues with
  | case1 visited type hall hmem =>
    rw [ancestryFrom_of_mem hmem]
    constructor
    · intro h
      cases h
    · rintro ⟨path, -, -, hnew, -⟩
      exact absurd hmem (hnew _ List.mem_cons_self)
  | case2 visited type hall hnew hparent =>
    rw [ancestryFrom_of_parent_eq_none hnew hparent]
    constructor
    · intro h
      cases h
    · rintro ⟨path, hpath, -⟩
      exact absurd hpath (not_ascends_concat ((parent?_of_get? hget).trans hparent))
  | case3 visited type hall hnew parent hparent hnone =>
    have hup := (parent?_of_get? hget).trans hparent
    rw [ancestryFrom_of_get?_eq_none hnew hparent hnone, Except.error.injEq,
      OperationError.unknownType.injEq]
    constructor
    · rintro rfl
      exact ⟨[], ⟨hup, trivial⟩, List.nodup_singleton _, by simpa using hnew,
        SortedMap.get?_eq_none_iff.1 hnone⟩
    · rintro ⟨path, hpath, -⟩
      rcases (ascends_concat_iff hup).1 hpath with ⟨-, rfl⟩ | ⟨rest, -, hrest⟩
      · rfl
      · have hend : types.parent? parent = none := by rw [parent?, hnone, Option.bind_none]
        exact absurd hrest (not_ascends_concat hend)
  | case4 visited type hall hnew parent hparent next hnext ih =>
    have hup := (parent?_of_get? hget).trans hparent
    have hkey : next.key = parent := hown _ _ hnext
    rw [ancestryFrom_of_get?_eq_some hnew hparent hnext, map_eq_error_iff,
      ih (by rwa [hkey]), hkey]
    constructor
    · rintro ⟨path, hpath, hnodup, havoid, hmissing⟩
      refine ⟨parent :: path, ⟨hup, hpath⟩, List.nodup_cons.2 ⟨fun hmem => ?_, hnodup⟩,
        fun name hname => ?_, hmissing⟩
      · exact havoid _ hmem List.mem_cons_self
      · rcases List.mem_cons.1 hname with rfl | hname
        · exact hnew
        · exact fun hold => havoid name hname (List.mem_cons_of_mem _ hold)
    · rintro ⟨path, hpath, hnodup, havoid, hmissing⟩
      rcases (ascends_concat_iff hup).1 hpath with ⟨-, rfl⟩ | ⟨rest, rfl, hrest⟩
      · exact absurd (SortedMap.mem_keys_iff.2 ⟨next, hnext⟩) hmissing
      · obtain ⟨hfirst, hnodup⟩ := List.nodup_cons.1 hnodup
        refine ⟨rest, hrest, hnodup, fun name hname => ?_, hmissing⟩
        rw [List.mem_cons, not_or]
        exact ⟨fun heq => hfirst (heq ▸ hname), havoid name (List.mem_cons_of_mem _ hname)⟩

/-! ## The outcome -/

/-- A way up leads on from names of types alone. -/
theorem Ascends.dropLast_subset {path : List ExpandedName} (h : types.Ascends key path) :
    (key :: path).dropLast ⊆ types.keys := by
  induction path generalizing key with
  | nil => exact List.nil_subset _
  | cons parent path ih =>
    rw [List.dropLast_cons_of_ne_nil (List.cons_ne_nil _ _)]
    exact List.cons_subset.2 ⟨mem_keys_of_parent? h.1, ih h.2⟩

/-- **A way up that meets no name twice is no longer than there are types.** -/
theorem Ascends.length_le {path : List ExpandedName} (h : types.Ascends key path)
    (hnodup : (key :: path).Nodup) : path.length ≤ types.size := by
  have hfront : (key :: path).dropLast.Nodup := hnodup.sublist (List.dropLast_sublist _)
  have hle := (List.Nodup.subperm hfront h.dropLast_subset).length_le
  rwa [List.length_dropLast, List.length_cons, Nat.add_sub_cancel, SortedMap.keys,
    List.length_map] at hle

theorem flatten_eq_error_iff {cause : OperationError} :
    types.flatten type = .error cause ↔ types.ancestry type = .error cause := map_eq_error_iff

/-- **What comes of the way up from a type.** Let every type of a map carry the name that it stands
under, whatever the parents are. No way up goes on for more names than there are types without one
that is met again, so both looking for a loop and collecting what is inherited come to an end.
Collecting fails for a loop exactly where a loop is found, which is named by the first name that is
met again; it fails for a missing type exactly where the way up comes, over different names, to one
that no type has; and else it succeeds. -/
theorem flatten_outcome (types : TypeMap) (hown : types.OwnNamed) {key : ExpandedName}
    {type : TypeDescriptor} (hget : types.get? key = some type) :
    (∀ path, types.Ascends key path → (key :: path).Nodup → path.length ≤ types.size) ∧
      (∀ again, types.flatten type = .error (.inheritanceLoop again) ↔
        types.parentCycle? key = some again) ∧
      (∀ again, types.parentCycle? key = some again ↔ types.MeetsAgain key again) ∧
      (∀ missing, types.flatten type = .error (.unknownType missing) ↔
        types.LeadsOut key missing) ∧
      ((∃ parameters, types.flatten type = .ok parameters) ↔
        types.parentCycle? key = none ∧ ∀ missing, ¬types.LeadsOut key missing) := by
  obtain rfl : type.key = key := hown key type hget
  have hloop : ∀ again, types.flatten type = .error (.inheritanceLoop again) ↔
      types.parentCycle? type.key = some again := fun again => by
    rw [flatten_eq_error_iff]
    exact ancestryFrom_eq_loop_iff hown (List.nil_subset _) hget
  have hout : ∀ missing, types.flatten type = .error (.unknownType missing) ↔
      types.LeadsOut type.key missing := fun missing => by
    rw [flatten_eq_error_iff, ancestry, ancestryFrom_eq_unknown_iff hown hget]
    simp [LeadsOut]
  refine ⟨fun path hpath hnodup => hpath.length_le hnodup, hloop,
    fun again => parentCycle?_eq_some_iff, hout, ?_⟩
  constructor
  · rintro ⟨parameters, hok⟩
    refine ⟨?_, fun missing hleads => ?_⟩
    · rw [Option.eq_none_iff_forall_ne_some]
      intro again hagain
      rw [(hloop again).2 hagain] at hok
      cases hok
    · rw [(hout missing).2 hleads] at hok
      cases hok
  · rintro ⟨hnone, hnowhere⟩
    cases hflatten : types.flatten type with
    | ok parameters => exact ⟨parameters, rfl⟩
    | error cause =>
      -- There are only two causes, and neither is there.
      rcases cause_of_ancestryFrom (flatten_eq_error_iff.1 hflatten) with
        ⟨again, rfl⟩ | ⟨missing, rfl⟩
      · rw [(hloop again).1 hflatten] at hnone
        cases hnone
      · exact absurd ((hout missing).1 hflatten) (hnowhere missing)

/-- A type without properties, given by its name and that of its parent. -/
def kin (name : String) (parent : Option String) : TypeDescriptor :=
  { TypeDescriptor.ofKey ⟨"", name⟩ "" "" with parent := parent.map fun parent => ⟨"", parent⟩ }

/-- A way into a loop, a loop of one type, a way out of the map, and one to its end. -/
def mixedParents : TypeMap :=
  [kin "a" (some "b"), kin "b" (some "c"), kin "c" (some "b"), kin "s" (some "s"),
    kin "d" (some "m"), kin "e" (some "f"), kin "f" none].foldl
    (fun types type => SortedMap.insert types type.key type) .empty

/-- From `a` the way up meets `b` again, from `s` it meets `s`, from `d` it comes to a name that no
type has, and from `e` to none of these. -/
theorem flatten_outcome_mixedParents :
    mixedParents.flatten (kin "a" (some "b")) = .error (.inheritanceLoop ⟨"", "b"⟩) ∧
      mixedParents.MeetsAgain ⟨"", "a"⟩ ⟨"", "b"⟩ ∧
      mixedParents.flatten (kin "s" (some "s")) = .error (.inheritanceLoop ⟨"", "s"⟩) ∧
      mixedParents.flatten (kin "d" (some "m")) = .error (.unknownType ⟨"", "m"⟩) ∧
      (∃ parameters, mixedParents.flatten (kin "e" (some "f")) = .ok parameters) ∧
      mixedParents.parentCycle? ⟨"", "e"⟩ = none ∧
      ∀ missing, ¬mixedParents.LeadsOut ⟨"", "e"⟩ missing := by
  have hown : mixedParents.OwnNamed := by decide +kernel
  have ha : mixedParents.get? ⟨"", "a"⟩ = some (kin "a" (some "b")) := by decide +kernel
  have hs : mixedParents.get? ⟨"", "s"⟩ = some (kin "s" (some "s")) := by decide +kernel
  have hd : mixedParents.get? ⟨"", "d"⟩ = some (kin "d" (some "m")) := by decide +kernel
  have he : mixedParents.get? ⟨"", "e"⟩ = some (kin "e" (some "f")) := by decide +kernel
  obtain ⟨-, hloop, hagain, -⟩ := flatten_outcome mixedParents hown ha
  obtain ⟨-, hself, -⟩ := flatten_outcome mixedParents hown hs
  obtain ⟨-, -, -, hout, -⟩ := flatten_outcome mixedParents hown hd
  obtain ⟨-, -, -, -, hok⟩ := flatten_outcome mixedParents hown he
  have hfound : mixedParents.parentCycle? ⟨"", "a"⟩ = some ⟨"", "b"⟩ := by decide +kernel
  have hend : ∃ parameters, mixedParents.flatten (kin "e" (some "f")) = .ok parameters :=
    ⟨[], by decide +kernel⟩
  refine ⟨(hloop _).2 hfound, (hagain _).1 hfound, (hself _).2 (by decide +kernel),
    (hout _).2 ⟨[], ⟨by decide +kernel, trivial⟩, List.nodup_singleton _, by decide +kernel⟩,
    hend, hok.1 hend⟩

end WsdlTypes.TypeMap
