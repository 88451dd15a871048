import WsdlTypes.Proofs.Bases
import WsdlTypes.Proofs.Declaration.Inline
import WsdlTypes.Proofs.Walk.Alike
/-!
# Derivations and first bases

A simple type tells by its derivation which scalar its values are: that of the base, which may be
declared in place, and a text where the derivation comes down to a list or a union
(`SimpleType.derivedScalar`). This is what its property is made of
(`SimpleType.carried_property?`). The scalar of the name, though, is looked for at the first
base that is named anywhere in the type. Both are the same where that base is the derivation's own
(`Catalog.scalarBase_of_declared`); a list of a restriction, in place, is text by its derivation
and has the scalar of the restriction (`Catalog.listed_restriction_is_followed`).
-/

namespace WsdlTypes

namespace SimpleType

variable {catalog : Catalog} {target base : String} {e restriction : Xml.Element}

/-! ## Scalars by derivation -/

/-- The scalar that a simple type in a namespace has by its derivation: a restriction has that of
the base, which it names or declares in place. Lists and unions are carried as text. -/
def derivedScalar (catalog : Catalog) (target : String) (e : Xml.Element) : Option Scalar :=
  match _h : derivation? e with
  | none => some .string
  | some derivation =>
    if derivation.name = "restriction" then
      match derivation.attribute? "base" with
      | some base => (catalog.scalarBase [] (QName.meaning derivation.scope target base)).value
      | none => derivedScalar catalog target derivation
    else some .string
termination_by sizeOf e
decreasing_by exact sizeOf_lt_of_derivation? _h

/-- A simple type comes down to a restriction that names its base, by way of restrictions whose
bases are declared in place. -/
inductive Restricts : Xml.Element → Xml.Element → String → Prop where
  | named {e restriction : Xml.Element} {base : String}
      (hderivation : derivation? e = some restriction) (htag : restriction.name = "restriction")
      (hbase : restriction.attribute? "base" = some base) : Restricts e restriction base
  | inPlace {e outer restriction : Xml.Element} {base : String}
      (hderivation : derivation? e = some outer) (htag : outer.name = "restriction")
      (hbase : outer.attribute? "base" = none) (hinner : Restricts outer restriction base) :
      Restricts e restriction base

/-- If any restriction in a simple type names a base, the first one that does is the one that the
derivation comes down to. -/
def FollowsDerivation (simpleType : Xml.Element) : Prop :=
  ∀ restriction base, FirstBase simpleType restriction base →
    Restricts simpleType restriction base

theorem derivedScalar_eq_match : derivedScalar catalog target e =
    match derivation? e with
    | none => some .string
    | some derivation =>
      if derivation.name = "restriction" then
        match derivation.attribute? "base" with
        | some base => (catalog.scalarBase [] (QName.meaning derivation.scope target base)).value
        | none => derivedScalar catalog target derivation
      else some .string := by
  rw [derivedScalar]
  split
  · rename_i hnone
    rw [hnone]
  · rename_i derivation hderivation
    rw [hderivation]

/-- A simple type that comes down to a base has the scalar of the base. -/
theorem Restricts.derivedScalar_eq (h : Restricts e restriction base) :
    derivedScalar catalog target e
      = (catalog.scalarBase [] (QName.meaning restriction.scope target base)).value := by
  induction h with
  | named hderivation htag hbase =>
    rw [derivedScalar_eq_match, hderivation]
    simp only [htag, if_true, hbase]
  | inPlace hderivation htag hbase _ ih =>
    rw [derivedScalar_eq_match, hderivation]
    simp only [htag, if_true, hbase, ih]

/-- One that comes down to none is text. -/
theorem derivedScalar_eq_string (h : ∀ restriction base, ¬Restricts e restriction base) :
    derivedScalar catalog target e = some .string := by
  induction e using derivedScalar.induct with
  | case1 e hnone => rw [derivedScalar_eq_match, hnone]
  | case2 e derivation hderivation htag base hbase =>
    exact absurd (.named hderivation htag hbase) (h derivation base)
  | case3 e derivation hderivation htag hbase ih =>
    rw [derivedScalar_eq_match, hderivation]
    simp only [htag, if_true, hbase]
    exact ih fun restriction base hinner =>
      h restriction base (.inPlace hderivation htag hbase hinner)
  | case4 e derivation hderivation htag =>
    rw [derivedScalar_eq_match, hderivation]
    simp only [htag, if_false]

/-- The restriction that a simple type comes down to is one of those in it. -/
theorem Restricts.mem_descendants (h : Restricts e restriction base) :
    restriction ∈ e.descendants schemaUri "restriction" ∧
      restriction.attribute? "base" = some base := by
  induction h with
  | named hderivation htag hbase =>
    exact ⟨mem_descendants_of_derivation? hderivation htag, hbase⟩
  | inPlace hderivation _ _ _ ih =>
    exact ⟨List.filter_subset _ (Xml.Element.all_subset_of_mem (mem_all_of_derivation? hderivation))
      ih.1, ih.2⟩

end SimpleType

/-! ## What the property is made of -/

namespace Catalog

variable {catalog : Catalog}

/-- The scalar that values of a type are carried as. Arrays are carried as text, and so is what
comes to no scalar. -/
def carried (catalog : Catalog) : ResolvedType → Scalar
  | .scalar kind => kind
  | .reference key => (catalog.scalarBase [] key).value.getD .string
  | .array _ => .string

theorem carried_ofKey (key : ExpandedName) :
    catalog.carried (TypeName.ofKey key).type
      = (catalog.scalarBase [] key).value.getD .string := by
  unfold TypeName.ofKey
  split
  · rename_i huri
    rw [scalarBase_of_ends (.builtin huri)]
    rfl
  · rfl

end Catalog

namespace SimpleType

variable {catalog : Catalog} {schema : Schema} {name : String} {e : Xml.Element}

/-- Listed values are carried as what they are listed of. -/
theorem carried_enumerationType (type : ResolvedType) :
    catalog.carried (enumerationType catalog schema e type).value = catalog.carried type := by
  cases type with
  | scalar | array => rfl
  | reference base =>
    simp only [enumerationType, Report.value_bind, Catalog.carried]
    cases (catalog.scalarBase [] base).value <;> rfl

theorem carried_withFacets (property : Property) :
    catalog.carried (withFacets catalog schema e property).value.type
      = catalog.carried property.type := by
  unfold withFacets
  cases enumeration e with
  | nil => rfl
  | cons first rest => exact carried_enumerationType property.type

theorem carried_ofBase (inner : Report (Option Property)) :
    catalog.carried (ofBase schema name e inner).value.type =
      match e.attribute? "base" with
      | some base =>
        (catalog.scalarBase [] (QName.meaning e.scope schema.target base)).value.getD .string
      | none => inner.value.elim .string fun property => catalog.carried property.type := by
  unfold ofBase
  cases e.attribute? "base" with
  | some base =>
    simp only [Report.value_bind, Report.value_pure, Schema.value_typeName, Catalog.carried_ofKey]
  | none =>
    simp only [Report.value_bind]
    cases inner.value <;> rfl

theorem carried_listed (inner : Report (Option Property)) :
    catalog.carried (listed schema name e inner).value.type = .string := by
  unfold listed
  cases e.attribute? "itemType" <;> rfl

/-- **The property of a simple type is carried as the scalar that the type has by its derivation**,
and as text where there is none. -/
theorem carried_property? :
    ((property? catalog schema name e).value.elim .string fun property =>
        catalog.carried property.type)
      = (derivedScalar catalog schema.target e).getD .string := by
  induction e using property?.induct catalog schema name with
  | case1 e hnone =>
    rw [property?_of_derivation?_eq_none catalog schema name hnone, derivedScalar_eq_match, hnone]
    rfl
  | case2 e derivation hderivation ih =>
    rw [property?_eq_match, derivedScalar_eq_match, hderivation]
    simp only [Report.value_map, Option.elim_some]
    by_cases hrestriction : derivation.name = "restriction"
    · simp only [if_pos hrestriction, restricted, Report.value_bind, carried_withFacets,
        carried_ofBase]
      cases derivation.attribute? "base" with
      | some base => rfl
      | none => exact ih
    · simp only [if_neg hrestriction]
      by_cases hlist : derivation.name = "list"
      · rw [if_pos hlist, carried_listed]
        rfl
      · rw [if_neg hlist]
        rfl

end SimpleType

namespace Catalog

variable {catalog : Catalog} {schema : Schema} {simpleType : Xml.Element} {name : String}

open SimpleType (FollowsDerivation Restricts derivedScalar)

/-! ## The scalar of a name -/

/-- **The scalar of a declared simple type**, where no simple type is declared twice. It is that of
the first base that a restriction anywhere in the type names, and the one by the derivation where
this base is the derivation's own or where no restriction names a base. Names of the schema
namespace are built-in types, whatever is declared. The scalar by the derivation is what the values
of the type's own property are carried as. -/
theorem scalarBase_of_declared (hnodup : (catalog.keys "simpleType").Nodup)
    (hschema : schema ∈ catalog.schemas)
    (hmem : simpleType ∈ schema.element.children schemaUri "simpleType")
    (hname : simpleType.attribute? "name" = some name) :
    (schema.target = schemaUri →
        (catalog.scalarBase [] ⟨schema.target, name⟩).value = some (Scalar.ofBuiltin name)) ∧
      (schema.target ≠ schemaUri →
        (FollowsDerivation simpleType →
          (catalog.scalarBase [] ⟨schema.target, name⟩).value
            = derivedScalar catalog schema.target simpleType) ∧
        ∀ restriction base, FirstBase simpleType restriction base →
          (catalog.scalarBase [] ⟨schema.target, name⟩).value
            = (catalog.scalarBase []
                (QName.meaning restriction.scope schema.target base)).value) ∧
      ((SimpleType.property? catalog schema name simpleType).value.elim .string fun property =>
          catalog.carried property.type)
        = (derivedScalar catalog schema.target simpleType).getD .string := by
  refine ⟨fun huri => scalarBase_of_ends (.builtin huri), fun hcustom => ?_,
    SimpleType.carried_property?⟩
  have hdeclared := Declares.of_nodup hnodup hschema hmem hname
  have hbased : ∀ restriction base, FirstBase simpleType restriction base →
      (catalog.scalarBase [] ⟨schema.target, name⟩).value
        = (catalog.scalarBase [] (QName.meaning restriction.scope schema.target base)).value :=
    fun _ _ hfirst => scalarBase_of_basedOn (.restricts hcustom hdeclared hfirst)
  refine ⟨fun hfollows => ?_, hbased⟩
  cases hfirst : namedBase? simpleType with
  | some found =>
    have hfirst := namedBase?_eq_some_iff.1 hfirst
    rw [hbased _ _ hfirst, (hfollows _ _ hfirst).derivedScalar_eq]
  | none =>
    have hnone := namedBase?_eq_none_iff.1 hfirst
    rw [scalarBase_of_ends (.text hcustom hdeclared hnone), SimpleType.derivedScalar_eq_string]
    intro restriction base hrestricts
    obtain ⟨hin, hbase⟩ := hrestricts.mem_descendants
    rw [hnone restriction hin] at hbase
    cases hbase

/-- A simple type of a name. -/
def simpleTypeBy (name : String) (derivation : Xml.Element) : Xml.Element :=
  Declaration.tagOn "simpleType" [("name", name)] 2 [derivation]

/-- A schema in no namespace with simple types. -/
def schemaOf (simpleTypes : List Xml.Element) : Schema :=
  { Declaration.plainSchema with element := Declaration.tagOn "schema" [] 1 simpleTypes }

/-- A derivation from a restriction that is declared in place. -/
def derivationInPlace (tag base : String) : Xml.Element :=
  Declaration.tagOn tag [] 3
    [Declaration.tagOn "simpleType" [] 4 [Declaration.tagOn "restriction" [("base", base)] 5 []]]

/-- A union `N`, and a simple type that restricts it by way of one that is declared in place. -/
def restrictedUnion : List Xml.Element :=
  [simpleTypeBy "N" (Declaration.tagOn "union" [("memberTypes", "s:int s:date")] 3 []),
    simpleTypeBy "T" (derivationInPlace "restriction" "N")]

/-- The restricted union is text, as its derivation says. -/
theorem scalarBase_of_restrictedUnion :
    let catalog : Catalog := ⟨[schemaOf restrictedUnion], []⟩
    let simpleType := simpleTypeBy "T" (derivationInPlace "restriction" "N")
    (catalog.keys "simpleType").Nodup ∧ schemaOf restrictedUnion ∈ catalog.schemas ∧
      simpleType ∈ (schemaOf restrictedUnion).element.children schemaUri "simpleType" ∧
      simpleType.attribute? "name" = some "T" ∧ FollowsDerivation simpleType ∧
      (catalog.scalarBase [] ⟨"", "T"⟩).value = derivedScalar catalog "" simpleType ∧
      (catalog.scalarBase [] ⟨"", "T"⟩).value = some .string := by
  have hnodup : ((⟨[schemaOf restrictedUnion], []⟩ : Catalog).keys "simpleType").Nodup := by
    decide +kernel
  have hchildren : (schemaOf restrictedUnion).element.children schemaUri "simpleType"
      = restrictedUnion := rfl
  have hmem : simpleTypeBy "T" (derivationInPlace "restriction" "N")
      ∈ (schemaOf restrictedUnion).element.children schemaUri "simpleType" :=
    hchildren ▸ List.mem_cons_of_mem _ List.mem_cons_self
  have hfollows : FollowsDerivation (simpleTypeBy "T" (derivationInPlace "restriction" "N")) := by
    intro restriction base hfirst
    cases (namedBase?_eq_some_iff.2 hfirst)
    exact .inPlace rfl rfl rfl (.named rfl rfl rfl)
  exact ⟨hnodup, List.mem_cons_self, hmem, rfl, hfollows,
    ((scalarBase_of_declared hnodup List.mem_cons_self hmem rfl).2.1 (by decide)).1 hfollows,
    by decide +kernel⟩

/-- **A list of numbers is taken for a number.** By its derivation a list is text, but if it
declares its items in place as a restriction, the base of this is followed. -/
theorem listed_restriction_is_followed :
    let simpleType := simpleTypeBy "T" (derivationInPlace "list" "s:int")
    let catalog : Catalog := ⟨[schemaOf [simpleType]], []⟩
    (catalog.keys "simpleType").Nodup ∧
      derivedScalar catalog "" simpleType = some .string ∧
      (catalog.scalarBase [] ⟨"", "T"⟩).value = some .integer := by
  decide +kernel

end Catalog

end WsdlTypes
