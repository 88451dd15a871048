import WsdlTypes.Proofs.Stages
import WsdlTypes.Proofs.Walk.Types
/-!
# Types as the sum of their declarations

A walk merges the descriptors of one name in place, one after the other, and drops the parent of
what comes of it where this has a value. In the end nothing of this order of events is left to be
seen: a type is put together from all the descriptors of its name at once
(`TypeDescriptor.Combines`), the map from all the descriptors that there were
(`TypeMap.Combined`), and every descriptor either gave the map a new name or was reported as a
duplicate (`Walk.duplicates_documents`).
-/

namespace WsdlTypes

/-! ## Sizes of maps -/

namespace SortedMap

variable {κ ν : Type} [LT κ] [StrictOrder κ] [DecidableEq κ] [DecidableLT κ]
variable {m : SortedMap κ ν} {k : κ} {v : ν}

omit [StrictOrder κ] [DecidableEq κ] [DecidableLT κ] in
theorem length_keys (m : SortedMap κ ν) : m.keys.length = m.size := List.length_map _

/-- A map has one entry more with a new key. -/
theorem size_insert_of_not_mem (h : k ∉ m.keys) : (m.insert k v).size = m.size + 1 := by
  have hperm : (m.insert k v).keys.Perm (k :: m.keys) := by
    rw [List.perm_ext_iff_of_nodup (nodup_keys _) (List.nodup_cons.2 ⟨h, nodup_keys m⟩)]
    intro k'
    rw [mem_keys_insert, List.mem_cons]
  rw [← length_keys, hperm.length_eq, List.length_cons, length_keys]

/-- And as many as before with an old one. -/
theorem size_insert_of_mem (h : k ∈ m.keys) : (m.insert k v).size = m.size := by
  have hperm : (m.insert k v).keys.Perm m.keys := by
    rw [List.perm_ext_iff_of_nodup (nodup_keys _) (nodup_keys m)]
    intro k'
    rw [mem_keys_insert, or_iff_right_of_imp]
    rintro rfl
    exact h
  rw [← length_keys, hperm.length_eq, length_keys]

end SortedMap

/-! ## A type and its parts -/

namespace TypeDescriptor

variable {valueName : String} {parts : List TypeDescriptor} {type newer : TypeDescriptor}

/-- A type is what some descriptors come to, the earliest first: it has all their properties, the
location of the last one, the last documentation that there is, and the last parent that there is,
unless two or more of them come to a type with a value. -/
structure Combines (valueName : String) (parts : List TypeDescriptor) (type : TypeDescriptor) :
    Prop where
  properties : type.properties = parts.flatMap TypeDescriptor.properties
  location : parts.getLast?.map TypeDescriptor.location = some type.location
  documentation : type.documentation = (parts.filterMap TypeDescriptor.documentation).getLast?
  parent : type.parent =
    if 2 ≤ parts.length ∧
        valueName ∈ (parts.flatMap TypeDescriptor.properties).map Property.name then none
    else (parts.filterMap TypeDescriptor.parent).getLast?

theorem Combines.single (valueName : String) (type : TypeDescriptor) :
    type.Combines valueName [type] where
  properties := (List.flatMap_singleton _ _).symm
  location := rfl
  documentation := by cases h : type.documentation <;> simp [h]
  parent := by cases h : type.parent <;> simp [h]

theorem Combines.ne_nil (h : type.Combines valueName parts) : parts ≠ [] := by
  rintro rfl
  cases h.location

/-- Of what some things have, the last that is there is that of the last thing, or else that of
those before. -/
theorem getLast?_filterMap_concat {α β : Type} (f : α → Option β) (l : List α) (a : α) :
    ((l ++ [a]).filterMap f).getLast? = (f a).or (l.filterMap f).getLast? := by
  rw [List.filterMap_append]
  cases h : f a with
  | none => rw [List.filterMap_cons_none h, List.filterMap_nil, List.append_nil, Option.none_or]
  | some b =>
    rw [List.filterMap_cons_some h, List.filterMap_nil, List.getLast?_concat, Option.some_or]

theorem isSome_property?_iff {name : String} :
    (type.property? name).isSome = true ↔ name ∈ type.properties.map Property.name := by
  rw [property?, List.find?_isSome, List.mem_map]
  simp

end TypeDescriptor

/-- A map is what some descriptors come to: it has their names and no others, and under each of
them what the descriptors of this name come to. -/
structure TypeMap.Combined (valueName : String) (all : List TypeDescriptor) (types : TypeMap) :
    Prop where
  mem_keys : ∀ key, key ∈ types.keys ↔ ∃ part ∈ all, part.key = key
  combines : ∀ key type, types.get? key = some type →
    type.Combines valueName (all.filter fun part => part.key = key)

theorem TypeMap.combined_empty (valueName : String) : TypeMap.Combined valueName [] .empty where
  mem_keys _ := ⟨fun h => absurd h List.not_mem_nil, by rintro ⟨_, h, -⟩; cases h⟩
  combines _ _ h := by cases h

namespace Walk

variable {config : Config} {catalog : Catalog} {schema : Schema} {e : Xml.Element}
variable {parts all : List TypeDescriptor} {type older : TypeDescriptor} {walk : Walk}
variable {start : TypeMap}

/-- **A descriptor more.** What is merged into a type is one more of its parts, and the parent is
dropped as the parts tell. -/
theorem combines_dropParent (h : older.Combines config.valueName parts)
    (hlocation : type.location ≠ "") :
    (dropParent config schema e (older.merge type)).value.Combines config.valueName
      (parts ++ [type]) := by
  have hproperties : (older.merge type).properties
      = (parts ++ [type]).flatMap TypeDescriptor.properties := by
    rw [TypeDescriptor.properties_merge, h.properties, List.flatMap_append, List.flatMap_singleton]
  have hlast : ((parts ++ [type]).getLast?.map TypeDescriptor.location)
      = some (older.merge type).location := by
    rw [List.getLast?_concat, Option.map_some, TypeDescriptor.merge,
      if_neg (by simpa using hlocation)]
  have hdocumentation : (older.merge type).documentation
      = ((parts ++ [type]).filterMap TypeDescriptor.documentation).getLast? := by
    rw [TypeDescriptor.getLast?_filterMap_concat, ← h.documentation]
    rfl
  have htwo : 2 ≤ (parts ++ [type]).length := by
    have := List.length_pos_of_ne_nil h.ne_nil
    rw [List.length_append, List.length_singleton]
    omega
  rw [value_dropParent]
  split
  · rename_i hvalue
    rw [TypeDescriptor.isSome_property?_iff, hproperties] at hvalue
    exact ⟨hproperties, hlast, hdocumentation, (if_pos ⟨htwo, hvalue⟩).symm⟩
  · rename_i hplain
    rw [TypeDescriptor.isSome_property?_iff, hproperties] at hplain
    refine ⟨hproperties, hlast, hdocumentation, ?_⟩
    -- Without a value among all parts there is none among those before.
    have hbefore : config.valueName ∉ (parts.flatMap TypeDescriptor.properties).map
        Property.name := fun hmem => hplain (by
      rw [List.flatMap_append, List.map_append]
      exact List.mem_append_left _ hmem)
    rw [if_neg fun hboth => hplain hboth.2, TypeDescriptor.parent_merge, h.parent,
      if_neg fun hboth => hbefore hboth.2, TypeDescriptor.getLast?_filterMap_concat]

/-! ## A map and its parts -/

/-- A descriptor more, whose name is new or not. -/
theorem combined_enter (h : TypeMap.Combined config.valueName all walk.types)
    (hlocation : type.location ≠ "") :
    TypeMap.Combined config.valueName (all ++ [type])
      (enter config schema e walk type).value.types where
  mem_keys key := by
    rw [mem_keys_enter, h.mem_keys]
    simp only [List.mem_append, List.mem_singleton, or_and_right, exists_or, exists_eq_left,
      or_comm, eq_comm (a := key)]
  combines key later hget := by
    have hfilter : (all ++ [type]).filter (fun part => part.key = key)
        = all.filter (fun part => part.key = key) ++ if type.key = key then [type] else [] := by
      rw [List.filter_append]
      by_cases heq : type.key = key <;> simp [heq]
    rw [hfilter]
    cases hold : walk.types.get? type.key with
    | none =>
      rw [enter_of_get?_eq_none hold, Report.value_pure, SortedMap.get?_insert] at hget
      split at hget
      · -- No descriptor was called like this one.
        rename_i heq
        subst heq
        cases hget
        have hnone : all.filter (fun part => part.key = type.key) = [] := by
          rw [List.filter_eq_nil_iff]
          intro part hpart hkey
          exact SortedMap.get?_eq_none_iff.1 hold
            ((h.mem_keys type.key).2 ⟨part, hpart, by simpa using hkey⟩)
        rw [hnone, if_pos rfl]
        exact .single _ type
      · rename_i hne
        rw [if_neg hne, List.append_nil]
        exact h.combines key later hget
    | some older =>
      rw [value_enter_of_get?_eq_some hold, SortedMap.get?_insert] at hget
      split at hget
      · rename_i heq
        subst heq
        cases hget
        rw [if_pos rfl]
        exact combines_dropParent (h.combines _ older hold) hlocation
      · rename_i hne
        rw [if_neg hne, List.append_nil]
        exact h.combines key later hget

/-- The descriptors of some declarations, in order. -/
def descriptors (config : Config) (catalog : Catalog) (l : List (Schema × Xml.Element)) :
    List TypeDescriptor :=
  l.filterMap fun d => (Declaration.describeAny config catalog d.1 d.2).value

theorem descriptors_cons_of_none {d : Schema × Xml.Element} {l : List (Schema × Xml.Element)}
    (h : (Declaration.describeAny config catalog d.1 d.2).value = none) :
    descriptors config catalog (d :: l) = descriptors config catalog l :=
  List.filterMap_cons_none h

theorem descriptors_cons_of_some {d : Schema × Xml.Element} {l : List (Schema × Xml.Element)}
    (h : (Declaration.describeAny config catalog d.1 d.2).value = some type) :
    descriptors config catalog (d :: l) = type :: descriptors config catalog l :=
  List.filterMap_cons_some h

theorem descriptors_cons (d : Schema × Xml.Element) (l : List (Schema × Xml.Element)) :
    descriptors config catalog (d :: l)
      = descriptors config catalog [d] ++ descriptors config catalog l :=
  List.filterMap_append (l := [d])

theorem combined_fold {l : List (Schema × Xml.Element)}
    (hlocation : ∀ type ∈ descriptors config catalog l, type.location ≠ "")
    (h : TypeMap.Combined config.valueName all walk.types) :
    TypeMap.Combined config.valueName (all ++ descriptors config catalog l)
      (Report.fold (declare config catalog) walk l).value.types := by
  induction l generalizing walk all with
  | nil => simpa [descriptors] using h
  | cons d rest ih =>
    rw [Report.value_fold_cons]
    cases hdescribe : (Declaration.describeAny config catalog d.1 d.2).value with
    | none =>
      rw [value_declare_of_none hdescribe]
      rw [descriptors_cons_of_none hdescribe] at hlocation ⊢
      exact ih hlocation h
    | some type =>
      rw [value_declare_of_some hdescribe]
      rw [descriptors_cons_of_some hdescribe] at hlocation ⊢
      rw [List.append_cons]
      exact ih (fun part hpart => hlocation part (List.mem_cons_of_mem _ hpart))
        (combined_enter h (hlocation type List.mem_cons_self))

/-- **What a walk comes to** is what the descriptors before it and those of its declarations come
to. -/
theorem combined_documents {order : List Nat}
    (hlocation : ∀ type ∈ descriptors config catalog (catalog.declarationsOf order),
      type.location ≠ "")
    (h : TypeMap.Combined config.valueName all start) :
    TypeMap.Combined config.valueName
      (all ++ descriptors config catalog (catalog.declarationsOf order))
      (documents config catalog start order).value.types := by
  rw [documents_eq_fold]
  exact combined_fold hlocation h

/-! ## Duplicates -/

/-- Whether a finding is that a name is taken. -/
def isDuplicate (finding : Finding) : Bool := finding.problem.kind = .duplicateTypeDefinition

theorem not_isDuplicate_of_ofDeclaration {finding : Finding}
    (h : finding.problem.ofDeclaration = true) : isDuplicate finding = false := by
  obtain ⟨problem, file, line⟩ := finding
  cases problem <;> first | rfl | cases h

theorem countP_isDuplicate_dropParent :
    (dropParent config schema e type).findings.countP isDuplicate = 0 := by
  unfold dropParent
  split <;> rfl

/-- **A descriptor gives the map a new name, or it is reported**, once. -/
theorem duplicates_enter :
    (enter config schema e walk type).findings.countP isDuplicate
        + (enter config schema e walk type).value.types.size
      = walk.types.size + 1 := by
  cases hold : walk.types.get? type.key with
  | none =>
    rw [enter_of_get?_eq_none hold, Report.value_pure,
      SortedMap.size_insert_of_not_mem (SortedMap.get?_eq_none_iff.1 hold)]
    exact Nat.zero_add _
  | some older =>
    have hkey : type.key ∈ walk.types.keys := SortedMap.mem_keys_iff.2 ⟨older, hold⟩
    have hfindings : (enter config schema e walk type).findings.countP isDuplicate = 1 := by
      simp only [enter, hold, Report.findings_bind, List.countP_append,
        countP_isDuplicate_dropParent]
      rfl
    rw [hfindings, value_enter_of_get?_eq_some hold, SortedMap.size_insert_of_mem hkey,
      Nat.add_comm]

theorem duplicates_declare (config : Config) (catalog : Catalog) (walk : Walk)
    (d : Schema × Xml.Element) :
    (declare config catalog walk d).findings.countP isDuplicate
        + (declare config catalog walk d).value.types.size
      = walk.types.size + (descriptors config catalog [d]).length := by
  have hown : (Declaration.describeAny config catalog d.1 d.2).findings.countP isDuplicate = 0 := by
    rw [List.countP_eq_zero]
    intro finding hfinding
    rw [not_isDuplicate_of_ofDeclaration
      (Declaration.about_describeAny config catalog d.1 d.2 finding hfinding)]
    exact Bool.false_ne_true
  cases hdescribe : (Declaration.describeAny config catalog d.1 d.2).value with
  | none =>
    rw [value_declare_of_none hdescribe, descriptors_cons_of_none hdescribe]
    simp only [declare, enterDescribed, Report.findings_bind, List.countP_append, hown, hdescribe]
    exact Nat.zero_add _
  | some type =>
    rw [value_declare_of_some hdescribe, descriptors_cons_of_some hdescribe]
    simp only [declare, enterDescribed, Report.findings_bind, List.countP_append, hown, hdescribe,
      Nat.zero_add]
    exact duplicates_enter

theorem duplicates_fold (config : Config) (catalog : Catalog) (walk : Walk)
    (l : List (Schema × Xml.Element)) :
    (Report.fold (declare config catalog) walk l).findings.countP isDuplicate
        + (Report.fold (declare config catalog) walk l).value.types.size
      = walk.types.size + (descriptors config catalog l).length := by
  induction l generalizing walk with
  | nil => exact Nat.zero_add _
  | cons d rest ih =>
    have hfirst := duplicates_declare config catalog walk d
    rw [Report.findings_fold_cons, Report.value_fold_cons, List.countP_append, descriptors_cons,
      List.length_append]
    have hrest := ih (declare config catalog walk d).value
    omega

/-- **A walk gives the map a new name for every descriptor that it does not report.** -/
theorem duplicates_documents (config : Config) (catalog : Catalog) (start : TypeMap)
    (order : List Nat) :
    (documents config catalog start order).findings.countP isDuplicate
        + (documents config catalog start order).value.types.size
      = start.size + (descriptors config catalog (catalog.declarationsOf order)).length := by
  rw [documents_eq_fold]
  exact duplicates_fold config catalog _ _

end Walk

end WsdlTypes
