import Mathlib.Logic.Function.Iterate
import Mathlib.Logic.Relation
import WsdlTypes.Proofs.Walk.Lookup
/-!
# From base to base

The scalar of a simple type is looked for from name to name: of the first declaration of a name the
first restriction that names a base tells the next one (`BasedOn`). The search meets no name twice,
so it takes no more rounds than there are declarations, and one (`exists_iterate_eq_ended`). It ends
well at a built-in type or at a simple type without such a restriction (`Ends`), and in vain where
a name is met again, or is a name that no simple type has (`scalarBase_outcome`).
-/

namespace WsdlTypes

/-! ## First declarations, first bases -/

/-- A declaration of a tag is the first one of a name: no schema in front has another one, nor has
its own schema before it. -/
inductive Catalog.Declares (catalog : Catalog) (tag : String) (key : ExpandedName)
    (schema : Schema) (e : Xml.Element) : Prop where
  | first {front back : List Schema} {before behind : List Xml.Element}
      (hschemas : catalog.schemas = front ++ schema :: back)
      (hfront : ∀ other ∈ front, other.target = key.uri →
        ∀ declaration ∈ other.element.children schemaUri tag,
          declaration.attribute? "name" ≠ some key.name)
      (htarget : schema.target = key.uri)
      (hchildren : schema.element.children schemaUri tag = before ++ e :: behind)
      (hbefore : ∀ declaration ∈ before, declaration.attribute? "name" ≠ some key.name)
      (hname : e.attribute? "name" = some key.name)

/-- A restriction is the first one in a simple type that names a base. -/
inductive FirstBase (simpleType restriction : Xml.Element) (base : String) : Prop where
  | first {before behind : List Xml.Element}
      (hrestrictions : simpleType.descendants schemaUri "restriction"
        = before ++ restriction :: behind)
      (hbefore : ∀ other ∈ before, other.attribute? "base" = none)
      (hbase : restriction.attribute? "base" = some base)

theorem Schema.declaration?_eq_none_iff {schema : Schema} {tag name : String} :
    schema.declaration? tag name = none ↔
      ∀ e ∈ schema.element.children schemaUri tag, e.attribute? "name" ≠ some name := by
  rw [declaration?, List.find?_eq_none]
  simp only [decide_eq_true_eq, ne_eq]

theorem Catalog.declaration?_eq_some_iff {catalog : Catalog} {tag : String} {key : ExpandedName}
    {schema : Schema} {e : Xml.Element} :
    catalog.declaration? tag key = some (schema, e) ↔ catalog.Declares tag key schema e := by
  rw [declaration?, List.findSome?_eq_some_iff]
  constructor
  · rintro ⟨front, found, back, hschemas, hfound, hfront⟩
    split at hfound
    · rename_i htarget
      obtain ⟨declaration, hdeclaration, heq⟩ := Option.map_eq_some_iff.1 hfound
      cases heq
      obtain ⟨hname, before, behind, hchildren, hbefore⟩ :=
        List.find?_eq_some_iff_append.1 hdeclaration
      refine .first hschemas (fun other hother hsame => ?_) htarget hchildren
        (fun declaration hmem => by simpa using hbefore declaration hmem) (by simpa using hname)
      have hnone := hfront other hother
      rw [if_pos hsame, Option.map_eq_none_iff] at hnone
      exact Schema.declaration?_eq_none_iff.1 hnone
    · cases hfound
  · rintro ⟨hschemas, hfront, htarget, hchildren, hbefore, hname⟩
    refine ⟨_, schema, _, hschemas, ?_, fun other hother => ?_⟩
    · have hfound : schema.declaration? tag key.name = some e :=
        List.find?_eq_some_iff_append.2 ⟨by simpa using hname, _, _, hchildren,
          fun declaration hmem => by simpa using hbefore declaration hmem⟩
      rw [if_pos htarget, hfound, Option.map_some]
    · split
      · rename_i hsame
        rw [Schema.declaration?_eq_none_iff.2 (hfront other hother hsame), Option.map_none]
      · rfl

theorem Catalog.declaration?_eq_none_iff {catalog : Catalog} {tag : String}
    {key : ExpandedName} : catalog.declaration? tag key = none ↔ key ∉ catalog.keys tag := by
  constructor
  · intro hnone hmem
    obtain ⟨schema, hschema, hkey⟩ := List.mem_flatMap.1 hmem
    obtain ⟨e, he, hname⟩ := List.mem_filterMap.1 hkey
    obtain ⟨name, hattribute, rfl⟩ := Option.map_eq_some_iff.1 hname
    have hfound := List.findSome?_eq_none_iff.1 hnone schema hschema
    rw [if_pos rfl, Option.map_eq_none_iff] at hfound
    exact Schema.declaration?_eq_none_iff.1 hfound e he hattribute
  · intro hkey
    rw [Option.eq_none_iff_forall_ne_some]
    exact fun found hfound => hkey (mem_keys_of_declaration? hfound)

/-- **Where no name is declared twice, every declaration is the first one of its name.** -/
theorem Catalog.Declares.of_nodup {catalog : Catalog} {tag name : String} {schema : Schema}
    {e : Xml.Element} (hnodup : (catalog.keys tag).Nodup) (hschema : schema ∈ catalog.schemas)
    (he : e ∈ schema.element.children schemaUri tag) (hname : e.attribute? "name" = some name) :
    catalog.Declares tag ⟨schema.target, name⟩ schema e := by
  obtain ⟨front, back, hschemas⟩ := List.append_of_mem hschema
  obtain ⟨before, behind, hchildren⟩ := List.append_of_mem he
  -- Whatever is declared in front would be among the names in front of this one.
  simp only [keys, hschemas, List.flatMap_append, List.flatMap_cons, hchildren,
    List.filterMap_append, List.filterMap_cons, hname, Option.map_some, List.append_assoc,
    List.cons_append, List.nodup_append] at hnodup
  obtain ⟨-, ⟨-, -, hbefore⟩, hfront⟩ := hnodup
  refine .first hschemas (fun other hother htarget declaration hmem hsame => ?_) rfl hchildren
    (fun declaration hmem hsame => ?_) hname
  · refine hfront ⟨schema.target, name⟩ (List.mem_flatMap.2 ⟨other, hother, List.mem_filterMap.2
      ⟨declaration, hmem, ?_⟩⟩) ⟨schema.target, name⟩
      (List.mem_append_right _ List.mem_cons_self) rfl
    rw [hsame, htarget, Option.map_some]
  · refine hbefore ⟨schema.target, name⟩ (List.mem_filterMap.2 ⟨declaration, hmem, ?_⟩)
      ⟨schema.target, name⟩ List.mem_cons_self rfl
    rw [hsame, Option.map_some]

theorem namedBase?_eq_some_iff {simpleType restriction : Xml.Element} {base : String} :
    namedBase? simpleType = some (restriction, base) ↔ FirstBase simpleType restriction base := by
  rw [namedBase?, List.findSome?_eq_some_iff]
  constructor
  · rintro ⟨before, found, behind, hrestrictions, hfound, hbefore⟩
    obtain ⟨_, hbase, heq⟩ := Option.map_eq_some_iff.1 hfound
    cases heq
    exact .first hrestrictions (fun other hother => Option.map_eq_none_iff.1 (hbefore other hother))
      hbase
  · rintro ⟨hrestrictions, hbefore, hbase⟩
    exact ⟨_, restriction, _, hrestrictions, by rw [hbase, Option.map_some],
      fun other hother => by rw [hbefore other hother, Option.map_none]⟩

/-- No restriction names a base, or a first one does. -/
theorem namedBase?_eq_none_iff {simpleType : Xml.Element} :
    namedBase? simpleType = none ↔
      ∀ restriction ∈ simpleType.descendants schemaUri "restriction",
        restriction.attribute? "base" = none := by
  rw [namedBase?, List.findSome?_eq_none_iff]
  simp only [Option.map_eq_none_iff]

namespace Catalog

variable {catalog : Catalog} {key next again : ExpandedName} {kind : Scalar}
variable {visited : List ExpandedName}

/-! ## From name to name -/

/-- A name is followed by the base that the first declaration of a simple type of this name comes
to. Built-in types have no base. -/
inductive BasedOn (catalog : Catalog) (key : ExpandedName) : ExpandedName → Prop where
  | restricts {schema : Schema} {simpleType restriction : Xml.Element} {base : String}
      (hcustom : key.uri ≠ schemaUri)
      (hdeclared : catalog.Declares "simpleType" key schema simpleType)
      (hfirst : FirstBase simpleType restriction base) :
      BasedOn catalog key (QName.meaning restriction.scope schema.target base)

/-- A name stands for a scalar by itself: a built-in type does, and a simple type in which no
restriction names a base, which is text. -/
inductive Ends (catalog : Catalog) (key : ExpandedName) : Scalar → Prop where
  | builtin (huri : key.uri = schemaUri) : Ends catalog key (Scalar.ofBuiltin key.name)
  | text {schema : Schema} {simpleType : Xml.Element} (hcustom : key.uri ≠ schemaUri)
      (hdeclared : catalog.Declares "simpleType" key schema simpleType)
      (hnone : ∀ restriction ∈ simpleType.descendants schemaUri "restriction",
        restriction.attribute? "base" = none) : Ends catalog key .string

/-- From base to base a name comes to a scalar. -/
def ComesTo (catalog : Catalog) (key : ExpandedName) (kind : Scalar) : Prop :=
  ∃ last, Relation.ReflTransGen catalog.BasedOn key last ∧ catalog.Ends last kind

/-- From base to base a name comes to one that is met again. -/
def Circles (catalog : Catalog) (key : ExpandedName) : Prop :=
  ∃ again, Relation.ReflTransGen catalog.BasedOn key again ∧
    Relation.TransGen catalog.BasedOn again again

/-- From base to base a name comes to one that no simple type has, built-in ones included. -/
def Strays (catalog : Catalog) (key : ExpandedName) : Prop :=
  ∃ missing, Relation.ReflTransGen catalog.BasedOn key missing ∧ missing.uri ≠ schemaUri ∧
    missing ∉ catalog.keys "simpleType"

/-- **A name is based on one name at most.** -/
theorem BasedOn.unique (h : catalog.BasedOn key next) (h' : catalog.BasedOn key again) :
    next = again := by
  obtain ⟨-, hdeclared, hfirst⟩ := h
  obtain ⟨-, hdeclared', hfirst'⟩ := h'
  rw [← declaration?_eq_some_iff] at hdeclared hdeclared'
  cases hdeclared.symm.trans hdeclared'
  rw [← namedBase?_eq_some_iff] at hfirst hfirst'
  cases hfirst.symm.trans hfirst'
  rfl

/-- What stands for a scalar by itself is based on nothing. -/
theorem Ends.not_basedOn (h : catalog.Ends key kind) : ¬catalog.BasedOn key next := by
  rintro ⟨hcustom, hdeclared, hfirst⟩
  cases h with
  | builtin huri => exact hcustom huri
  | text _ hdeclared' hnone =>
    rw [← declaration?_eq_some_iff] at hdeclared hdeclared'
    cases hdeclared.symm.trans hdeclared'
    rw [namedBase?_eq_none_iff.symm, Option.eq_none_iff_forall_ne_some] at hnone
    exact hnone _ (namedBase?_eq_some_iff.2 hfirst)

theorem Ends.unique {kind' : Scalar} (h : catalog.Ends key kind) (h' : catalog.Ends key kind') :
    kind = kind' := by
  cases h with
  | builtin huri =>
    cases h' with
    | builtin => rfl
    | text hcustom => exact absurd huri hcustom
  | text hcustom =>
    cases h' with
    | builtin huri => exact absurd huri hcustom
    | text => rfl

/-- A scalar is come to from the next name, too. -/
theorem comesTo_iff_of_basedOn (h : catalog.BasedOn key next) :
    catalog.ComesTo key kind ↔ catalog.ComesTo next kind := by
  constructor
  · rintro ⟨last, hreaches, hends⟩
    rcases hreaches.cases_head with rfl | ⟨other, hother, hrest⟩
    · exact absurd h hends.not_basedOn
    · exact ⟨last, h.unique hother ▸ hrest, hends⟩
  · rintro ⟨last, hreaches, hends⟩
    exact ⟨last, .head h hreaches, hends⟩

theorem ComesTo.of_reflTransGen (h : catalog.ComesTo key kind)
    (hreaches : Relation.ReflTransGen catalog.BasedOn key next) : catalog.ComesTo next kind := by
  induction hreaches with
  | refl => exact h
  | tail _ hstep ih => exact (comesTo_iff_of_basedOn hstep).1 ih

theorem ComesTo.unique {kind' : Scalar} (h : catalog.ComesTo key kind)
    (h' : catalog.ComesTo key kind') : kind = kind' := by
  obtain ⟨last, hreaches, hends⟩ := h
  obtain ⟨last', hreaches', hends'⟩ := h'.of_reflTransGen hreaches
  rcases hreaches'.cases_head with rfl | ⟨_, hstep, -⟩
  · exact hends.unique hends'
  · exact absurd hstep hends.not_basedOn

/-- **On the way to a scalar no name is met again**: the way from it would go on for ever. -/
theorem ComesTo.not_circles (h : catalog.ComesTo key kind) : ¬catalog.Circles key := by
  rintro ⟨again, hreaches, hcircle⟩
  obtain ⟨last, hrest, hends⟩ := h.of_reflTransGen hreaches
  -- Whatever name on the way comes back to itself, the next one does, down to the last.
  induction hrest using Relation.ReflTransGen.head_induction_on with
  | refl =>
    obtain ⟨_, hstep, -⟩ := Relation.TransGen.head'_iff.1 hcircle
    exact hends.not_basedOn hstep
  | @head again next hstep _ ih =>
    obtain ⟨other, hother, hback⟩ := Relation.TransGen.head'_iff.1 hcircle
    rw [← hstep.unique hother] at hback
    exact ih (hreaches.tail hstep) (.tail' hback hstep)

/-- And none that no simple type has. -/
theorem ComesTo.not_strays (h : catalog.ComesTo key kind) : ¬catalog.Strays key := by
  rintro ⟨missing, hreaches, hcustom, hmissing⟩
  obtain ⟨last, hrest, hends⟩ := h.of_reflTransGen hreaches
  have hundeclared : ∀ {schema e}, ¬catalog.Declares "simpleType" missing schema e :=
    fun hdeclared => hmissing (mem_keys_of_declaration? (declaration?_eq_some_iff.2 hdeclared))
  rcases hrest.cases_head with rfl | ⟨_, ⟨-, hdeclared, -⟩, -⟩
  · cases hends with
    | builtin huri => exact hcustom huri
    | text _ hdeclared _ => exact hundeclared hdeclared
  · exact hundeclared hdeclared

/-! ## What the search finds -/

/-- What is found is what the name comes to. -/
theorem comesTo_of_scalarBase (h : (catalog.scalarBase visited key).value = some kind) :
    catalog.ComesTo key kind := by
  induction visited, key using scalarBase.induct catalog with
  | case1 visited key huri =>
    rw [value_scalarBase, if_pos huri, Option.some.injEq] at h
    exact ⟨key, .refl, h ▸ .builtin huri⟩
  | case2 visited key huri hmem =>
    rw [value_scalarBase, if_neg huri, if_pos hmem] at h
    cases h
  | case3 visited key huri hnew hnone =>
    rw [value_scalarBase, if_neg huri, if_neg hnew, hnone] at h
    cases h
  | case4 visited key huri hnew schema simpleType hfound hbase =>
    simp only [value_scalarBase, if_neg huri, if_neg hnew, hfound, hbase, Option.some.injEq] at h
    exact ⟨key, .refl,
      h ▸ .text huri (declaration?_eq_some_iff.1 hfound) (namedBase?_eq_none_iff.1 hbase)⟩
  | case5 visited key huri hnew schema simpleType hfound restriction base hbase ih =>
    simp only [value_scalarBase catalog visited, if_neg huri, if_neg hnew, hfound, hbase] at h
    exact (comesTo_iff_of_basedOn (.restricts huri (declaration?_eq_some_iff.1 hfound)
      (namedBase?_eq_some_iff.1 hbase))).2 (ih _ h)

/-- Where nothing is found, a name was met before or is met again, or no simple type has it. -/
theorem lost_of_scalarBase (h : (catalog.scalarBase visited key).value = none) :
    (∃ again, Relation.ReflTransGen catalog.BasedOn key again ∧ again ∈ visited) ∨
      catalog.Circles key ∨ catalog.Strays key := by
  induction visited, key using scalarBase.induct catalog with
  | case1 visited key huri =>
    rw [value_scalarBase, if_pos huri] at h
    cases h
  | case2 visited key huri hmem => exact Or.inl ⟨key, .refl, hmem⟩
  | case3 visited key huri hnew hnone =>
    exact Or.inr (Or.inr ⟨key, .refl, huri, declaration?_eq_none_iff.1 hnone⟩)
  | case4 visited key huri hnew schema simpleType hfound hbase =>
    simp only [value_scalarBase, if_neg huri, if_neg hnew, hfound, hbase] at h
    cases h
  | case5 visited key huri hnew schema simpleType hfound restriction base hbase ih =>
    simp only [value_scalarBase catalog visited, if_neg huri, if_neg hnew, hfound, hbase] at h
    have hstep := BasedOn.restricts huri (declaration?_eq_some_iff.1 hfound)
      (namedBase?_eq_some_iff.1 hbase)
    rcases ih _ h with
      ⟨again, hreaches, hmem⟩ | ⟨again, hreaches, hcircle⟩ | ⟨missing, hreaches, hmissing⟩
    · rcases List.mem_cons.1 hmem with rfl | hmem
      -- The way comes back to the name that it went on from.
      · exact Or.inr (Or.inl ⟨_, .refl, .head' hstep hreaches⟩)
      · exact Or.inl ⟨again, .head hstep hreaches, hmem⟩
    · exact Or.inr (Or.inl ⟨again, .head hstep hreaches, hcircle⟩)
    · exact Or.inr (Or.inr ⟨missing, .head hstep hreaches, hmissing⟩)

/-- **The search finds what the name comes to.** -/
theorem scalarBase_eq_some_iff :
    (catalog.scalarBase [] key).value = some kind ↔ catalog.ComesTo key kind := by
  refine ⟨comesTo_of_scalarBase, fun h => ?_⟩
  cases hvalue : (catalog.scalarBase [] key).value with
  | some kind' => rw [h.unique (comesTo_of_scalarBase hvalue)]
  | none =>
    rcases lost_of_scalarBase hvalue with ⟨_, -, hmem⟩ | hcircles | hstrays
    · cases hmem
    · exact absurd hcircles h.not_circles
    · exact absurd hstrays h.not_strays

theorem scalarBase_eq_none_iff :
    (catalog.scalarBase [] key).value = none ↔ catalog.Circles key ∨ catalog.Strays key := by
  constructor
  · intro h
    rcases lost_of_scalarBase h with ⟨_, -, hmem⟩ | hlost
    · cases hmem
    · exact hlost
  · intro h
    rw [Option.eq_none_iff_forall_ne_some]
    intro kind hsome
    have hcomes := scalarBase_eq_some_iff.1 hsome
    exact h.elim hcomes.not_circles hcomes.not_strays

/-- A name has the scalar of the name that it is based on. -/
theorem scalarBase_of_basedOn (h : catalog.BasedOn key next) :
    (catalog.scalarBase [] key).value = (catalog.scalarBase [] next).value :=
  Option.ext fun _ =>
    scalarBase_eq_some_iff.trans ((comesTo_iff_of_basedOn h).trans scalarBase_eq_some_iff.symm)

theorem scalarBase_of_ends (h : catalog.Ends key kind) :
    (catalog.scalarBase [] key).value = some kind :=
  scalarBase_eq_some_iff.2 ⟨key, .refl, h⟩

/-! ## Round by round -/

/-- Where the search for a scalar stands: at a name, behind others that it met, or at its end. -/
inductive Search where
  | looking (visited : List ExpandedName) (key : ExpandedName)
  | ended (result : Option Scalar)

/-- One round of the search. -/
def round (catalog : Catalog) : Search → Search
  | .ended result => .ended result
  | .looking visited key =>
    if key.uri = schemaUri then .ended (some (Scalar.ofBuiltin key.name))
    else if key ∈ visited then .ended none
    else
      match catalog.declaration? "simpleType" key with
      | none => .ended none
      | some (schema, simpleType) =>
        match namedBase? simpleType with
        | none => .ended (some .string)
        | some (restriction, base) =>
          .looking (key :: visited) (QName.meaning restriction.scope schema.target base)

/-- **The search ends** after a round for each declaration that was not met before, and one, at
most. -/
theorem exists_iterate_eq_ended (visited : List ExpandedName) (key : ExpandedName) :
    ∃ n ≤ unvisited (catalog.keys "simpleType") visited + 1,
      catalog.round^[n] (.looking visited key)
        = .ended (catalog.scalarBase visited key).value := by
  induction visited, key using scalarBase.induct catalog with
  | case1 visited key huri =>
    refine ⟨1, Nat.le_add_left .., ?_⟩
    rw [value_scalarBase]
    simp only [Function.iterate_one, round, if_pos huri]
  | case2 visited key huri hmem =>
    refine ⟨1, Nat.le_add_left .., ?_⟩
    rw [value_scalarBase]
    simp only [Function.iterate_one, round, if_neg huri, if_pos hmem]
  | case3 visited key huri hnew hnone =>
    refine ⟨1, Nat.le_add_left .., ?_⟩
    rw [value_scalarBase]
    simp only [Function.iterate_one, round, if_neg huri, if_neg hnew, hnone]
  | case4 visited key huri hnew schema simpleType hfound hbase =>
    refine ⟨1, Nat.le_add_left .., ?_⟩
    rw [value_scalarBase]
    simp only [Function.iterate_one, round, if_neg huri, if_neg hnew, hfound, hbase]
  | case5 visited key huri hnew schema simpleType hfound restriction base hbase ih =>
    obtain ⟨n, hn, hend⟩ := ih (QName.meaning restriction.scope schema.target base)
    have hlt := unvisited_cons_lt (mem_keys_of_declaration? hfound) hnew
    refine ⟨n + 1, by omega, ?_⟩
    rw [Function.iterate_succ_apply, value_scalarBase]
    simp only [round, if_neg huri, if_neg hnew, hfound, hbase]
    exact hend

/-- **What comes of looking for the scalar of a simple type.** Among whatever schemas, however their
simple types restrict each other, the search ends, after no more rounds than there are declarations
of simple types, and one. It finds nothing exactly where the way from base to base meets a name
again or comes to one that no simple type has; else it finds the scalar that this way ends at. -/
theorem scalarBase_outcome (catalog : Catalog) (key : ExpandedName) :
    (∃ n ≤ (catalog.keys "simpleType").length + 1,
        catalog.round^[n] (.looking [] key) = .ended (catalog.scalarBase [] key).value) ∧
      ((catalog.scalarBase [] key).value = none ↔ catalog.Circles key ∨ catalog.Strays key) ∧
      ∀ kind, (catalog.scalarBase [] key).value = some kind ↔ catalog.ComesTo key kind := by
  refine ⟨?_, scalarBase_eq_none_iff, fun kind => scalarBase_eq_some_iff⟩
  obtain ⟨n, hn, hend⟩ := @exists_iterate_eq_ended catalog [] key
  exact ⟨n, Nat.le_trans hn (Nat.succ_le_succ List.countP_le_length), hend⟩

end Catalog

end WsdlTypes
