import WsdlTypes.Proofs.Walk.Merged
/-!
# What entries say of themselves

However many declarations are merged under one name, the type that they come to lies in the package
of the namespace that the name belongs to (`Walk.packaged_documents`). A property that refers to the
type it belongs to is reported where it is described. Nothing else in the content of a declaration
is such a report, and nothing in the entering of a descriptor, so a walk reports the properties of
its descriptors that do so, one by one (`Walk.selfReferencesIn_documents`). Parts of one type have
one name, so these are the properties of the types that refer to their own type
(`TypeMap.Combined.selfReferences_perm`).
-/

namespace WsdlTypes

/-- Every type lies in the package of its namespace. -/
def TypeMap.Packaged (naming : Naming) (types : TypeMap) : Prop :=
  ∀ key type, types.get? key = some type → type.package = naming.package key.uri

/-- What is to be reported of the properties of a type that refer to the type itself. -/
def TypeDescriptor.selfReferences (type : TypeDescriptor) : List Problem :=
  (type.properties.filter fun property => property.type = .reference type.key).map
    fun property => .selfReference property.name type.name

/-- What was reported of properties that refer to the type they belong to. -/
def selfReferencesIn (findings : List Finding) : List Problem :=
  (findings.map Finding.problem).filter fun problem => problem.kind = .selfReferencingProperty

theorem selfReferencesIn_append (findings findings' : List Finding) :
    selfReferencesIn (findings ++ findings')
      = selfReferencesIn findings ++ selfReferencesIn findings' := by
  rw [selfReferencesIn, List.map_append, List.filter_append]
  rfl

/-- The content of a declaration reports no property for referring to its own type: it does not know
what type that is. -/
theorem Report.OfContent.selfReferencesIn_eq_nil {α : Type} {r : Report α} (h : r.OfContent) :
    selfReferencesIn r.findings = [] := by
  rw [selfReferencesIn, List.filter_eq_nil_iff]
  intro problem hmem
  obtain ⟨finding, hfinding, rfl⟩ := List.mem_map.1 hmem
  have hcontent := h finding hfinding
  cases hproblem : finding.problem <;> simp [hproblem, Problem.ofContent] at hcontent <;>
    simp [Problem.kind]

namespace Declaration

variable {config : Config} {catalog : Catalog} {schema : Schema} {e : Xml.Element}
variable {type : TypeDescriptor}

/-! ## One declaration -/

theorem package_describeAny (h : (describeAny config catalog schema e).value = some type) :
    type.package = config.naming.package type.key.uri := by
  rcases describeAny_cases h with ⟨-, name, target, rfl⟩ | ⟨-, name, rfl⟩
  · rfl
  · rw [key_describe]
    unfold describe
    split <;> rfl

theorem selfReferencesIn_reportSelfReferences :
    selfReferencesIn (reportSelfReferences schema e type).findings = type.selfReferences := by
  have hproblems : (reportSelfReferences schema e type).findings.map Finding.problem
      = type.selfReferences := by
    simp only [reportSelfReferences, Report.findings_bind, Report.findings_each,
      Report.findings_pure, List.append_nil, List.map_flatMap, TypeDescriptor.selfReferences]
    exact List.map_eq_flatMap.symm
  rw [selfReferencesIn, hproblems, List.filter_eq_self]
  intro problem hmem
  obtain ⟨property, -, rfl⟩ := List.mem_map.1 hmem
  rfl

/-- **A description reports the properties that refer to their own type**, each of them once. -/
theorem selfReferencesIn_describe (name : String) :
    selfReferencesIn (describe config catalog schema e name).findings
      = (describe config catalog schema e name).value.selfReferences := by
  unfold describe
  split
  · rfl
  · simp only [Report.findings_bind, Report.value_bind, Report.findings_pure, Report.value_pure,
      List.append_nil, selfReferencesIn_append, selfReferencesIn_reportSelfReferences,
      (about_body config catalog schema e).selfReferencesIn_eq_nil, List.nil_append]

theorem selfReferencesIn_describeElement :
    selfReferencesIn (describeElement config catalog schema e).findings
      = (describeElement config catalog schema e).value.toList.flatMap
        TypeDescriptor.selfReferences := by
  unfold describeElement
  split
  · rfl
  · simp [selfReferencesIn_describe]
  · split
    · simp [selfReferencesIn_describe]
    · rename_i name qname _ _ _
      rw [Report.findings_bind, selfReferencesIn_append,
        (schema.about_typeName e qname).ofContent.selfReferencesIn_eq_nil, Report.value_bind]
      split
      · rfl
      · split <;> rfl

theorem selfReferencesIn_describeAny :
    selfReferencesIn (describeAny config catalog schema e).findings
      = (describeAny config catalog schema e).value.toList.flatMap
        TypeDescriptor.selfReferences := by
  unfold describeAny
  split
  · exact selfReferencesIn_describeElement
  · unfold describeType
    split
    · rfl
    · simp [selfReferencesIn_describe]

end Declaration

namespace Walk

variable {config : Config} {catalog : Catalog} {schema : Schema} {e : Xml.Element}
variable {walk : Walk} {type : TypeDescriptor} {start : TypeMap}

/-! ## A walk -/

/-- A descriptor that is entered adds the package of its namespace, or lies in that of the type that
is there. -/
theorem packaged_enter (htype : type.package = config.naming.package type.key.uri)
    (h : walk.types.Packaged config.naming) :
    (enter config schema e walk type).value.types.Packaged config.naming := by
  intro key later hget
  cases hold : walk.types.get? type.key with
  | none =>
    rw [enter_of_get?_eq_none hold, Report.value_pure, SortedMap.get?_insert] at hget
    split at hget
    · rename_i hkey
      cases hget
      rwa [← hkey]
    · exact h key later hget
  | some older =>
    rw [value_enter_of_get?_eq_some hold, SortedMap.get?_insert] at hget
    split at hget
    · rename_i hkey
      cases hget
      rw [package_dropParent, TypeDescriptor.merge, h _ older hold, htype, ite_self, hkey]
    · exact h key later hget

theorem packaged_documents {order : List Nat} (h : start.Packaged config.naming) :
    (documents config catalog start order).value.types.Packaged config.naming := by
  rw [documents_eq_fold]
  refine Report.fold_induction (P := fun walk : Walk => walk.types.Packaged config.naming)
    (fun walk d _ hpackaged => ?_) h
  cases hdescribe : (Declaration.describeAny config catalog d.1 d.2).value with
  | none => rwa [value_declare_of_none hdescribe]
  | some type =>
    rw [value_declare_of_some hdescribe]
    exact packaged_enter (Declaration.package_describeAny hdescribe) hpackaged

/-- Where a name is taken is reported, and that a parent goes, but no property. -/
theorem selfReferencesIn_enter :
    selfReferencesIn (enter config schema e walk type).findings = [] := by
  unfold enter
  split
  · rfl
  · unfold dropParent
    split <;> rfl

theorem selfReferencesIn_declare (d : Schema × Xml.Element) :
    selfReferencesIn (declare config catalog walk d).findings
      = (descriptors config catalog [d]).flatMap TypeDescriptor.selfReferences := by
  rw [declare, enterDescribed, Report.findings_bind, selfReferencesIn_append,
    Declaration.selfReferencesIn_describeAny]
  cases hdescribe : (Declaration.describeAny config catalog d.1 d.2).value with
  | none =>
    rw [descriptors_cons_of_none hdescribe]
    rfl
  | some type =>
    rw [descriptors_cons_of_some hdescribe, selfReferencesIn_enter, List.append_nil]
    rfl

theorem selfReferencesIn_fold (l : List (Schema × Xml.Element)) :
    selfReferencesIn (Report.fold (declare config catalog) walk l).findings
      = (descriptors config catalog l).flatMap TypeDescriptor.selfReferences := by
  induction l generalizing walk with
  | nil => rfl
  | cons d rest ih =>
    rw [Report.findings_fold_cons, selfReferencesIn_append, ih, selfReferencesIn_declare,
      ← List.flatMap_append, ← descriptors_cons]

/-- **A walk reports the properties that refer to their own type**, descriptor by descriptor. -/
theorem selfReferencesIn_documents {order : List Nat} :
    selfReferencesIn (documents config catalog start order).findings
      = (descriptors config catalog (catalog.declarationsOf order)).flatMap
        TypeDescriptor.selfReferences := by
  rw [documents_eq_fold]
  exact selfReferencesIn_fold _

end Walk

/-! ## Merged types -/

/-- What some things are grouped into by different names, all of theirs, are these things. -/
theorem perm_flatMap_filter {α κ : Type} [DecidableEq κ] {f : α → κ} {keys : List κ} {l : List α}
    (hnodup : keys.Nodup) (hkeys : ∀ a ∈ l, f a ∈ keys) :
    (keys.flatMap fun key => l.filter fun a => f a = key).Perm l := by
  induction keys generalizing l with
  | nil =>
    rw [List.eq_nil_iff_forall_not_mem.2 fun a ha => List.not_mem_nil (hkeys a ha)]
    rfl
  | cons key rest ih =>
    obtain ⟨hnew, hrest⟩ := List.nodup_cons.1 hnodup
    have hothers := @ih (l.filter fun a => f a ≠ key) hrest fun a ha => by
      obtain ⟨hmem, hne⟩ := List.mem_filter.1 ha
      exact (List.mem_cons.1 (hkeys a hmem)).resolve_left (by simpa using hne)
    -- What has another name is not among what has the first one.
    have hfilter : (rest.flatMap fun other => (l.filter fun a => f a ≠ key).filter
          fun a => f a = other)
        = rest.flatMap fun other => l.filter fun a => f a = other := by
      refine List.flatMap_congr fun other hother => ?_
      rw [List.filter_filter]
      refine List.filter_congr fun a _ => ?_
      have hne : other ≠ key := fun heq => hnew (heq ▸ hother)
      by_cases ha : f a = other <;> simp [ha, hne]
    rw [hfilter] at hothers
    rw [List.flatMap_cons]
    refine (hothers.append_left _).trans ?_
    simpa using List.filter_append_perm (fun a => decide (f a = key)) l

namespace TypeMap.Combined

variable {valueName : String} {all : List TypeDescriptor} {types : TypeMap}

/-- **The properties that refer to their own type are those that did so in the parts.** -/
theorem selfReferences_perm (h : Combined valueName all types) (hkeyed : types.Keyed)
    (hnames : ∀ part ∈ all, part.name = part.key.name) :
    (types.entries.flatMap fun entry => entry.2.selfReferences).Perm
      (all.flatMap TypeDescriptor.selfReferences) := by
  have hparts : ∀ entry ∈ types.entries, entry.2.selfReferences
      = (all.filter fun part => part.key = entry.1).flatMap TypeDescriptor.selfReferences := by
    intro entry hentry
    have hget := SortedMap.get?_eq_some_iff.2 hentry
    obtain ⟨hkey, hname⟩ := hkeyed _ _ hget
    rw [TypeDescriptor.selfReferences, (h.combines _ _ hget).properties, List.filter_flatMap,
      List.map_flatMap]
    refine List.flatMap_congr fun part hpart => ?_
    obtain ⟨hmem, hsame⟩ := List.mem_filter.1 hpart
    have hpartkey : part.key = entry.1 := by simpa using hsame
    rw [TypeDescriptor.selfReferences, hnames part hmem, hpartkey, hkey, hname]
  rw [List.flatMap_congr hparts, ← List.flatMap_map (g := fun key =>
    (all.filter fun part => part.key = key).flatMap TypeDescriptor.selfReferences),
    ← List.flatMap_assoc]
  exact (perm_flatMap_filter (SortedMap.nodup_keys types) fun part hpart =>
    (h.mem_keys _).2 ⟨part, hpart, rfl⟩).flatMap_right _

end TypeMap.Combined

end WsdlTypes
