import Mathlib.Data.List.Induction
import WsdlTypes.Proofs.Lineage
/-!
# Parameters from lineages

The parameters of an operation are collected property by property, those of the type itself first
and then those of what it inherits from. A step puts a property behind the parameters if its name
is new (`Gathers.addParameter`), so in the end there is one parameter of each name, in the order in
which the names were met, with the type that its first property has (`gathers_foldl`). Over a
lineage the first property of a name is that of the nearest type that has one
(`parameters_of_lineage`).
-/

namespace WsdlTypes

/-- A property as a parameter. -/
def Parameter.ofProperty (property : Property) : Parameter := ⟨property.name, property.type⟩

/-- The properties of some types, one type behind the other, without those whose name came
before, as parameters. -/
def firstParameters (chain : List TypeDescriptor) : List Parameter :=
  ((chain.flatMap TypeDescriptor.properties).eraseDupsBy fun p q => p.name == q.name).map
    Parameter.ofProperty

/-- Some parameters stand for some properties: there is one for each name that a property has, in
the order in which the names come first, with the type of the first property of its name. -/
structure Gathers (properties : List Property) (parameters : List Parameter) : Prop where
  distinct : (parameters.map Parameter.name).Nodup
  covers : ∀ name,
    name ∈ parameters.map Parameter.name ↔ name ∈ properties.map Property.name
  ordered : parameters.Pairwise fun a b =>
    (properties.map Property.name).idxOf a.name < (properties.map Property.name).idxOf b.name
  first : ∀ parameter ∈ parameters, ∃ property,
    properties.find? (fun property => property.name = parameter.name) = some property ∧
      property.type = parameter.type

open TypeMap (addParameter)

variable {parameters : List Parameter} {properties : List Property} {property : Property}

/-! ## Collecting properties -/

theorem addParameter_of_mem (h : property.name ∈ parameters.map Parameter.name) :
    addParameter parameters property = parameters := by
  obtain ⟨parameter, hmem, hname⟩ := List.mem_map.1 h
  rw [addParameter, if_pos (List.any_eq_true.2 ⟨parameter, hmem, by simpa using hname⟩)]

theorem addParameter_of_not_mem (h : property.name ∉ parameters.map Parameter.name) :
    addParameter parameters property = parameters ++ [.ofProperty property] := by
  rw [addParameter, if_neg]
  · rfl
  · rw [List.any_eq_true]
    rintro ⟨parameter, hmem, hname⟩
    exact h (List.mem_map.2 ⟨parameter, hmem, by simpa using hname⟩)

namespace Gathers

theorem nil : Gathers [] [] where
  distinct := List.nodup_nil
  covers _ := Iff.rfl
  ordered := List.Pairwise.nil
  first _ h := absurd h List.not_mem_nil

/-- What there was comes in the same order when a property more comes behind. -/
theorem ordered_concat (h : Gathers properties parameters) (property : Property) :
    parameters.Pairwise fun a b =>
      ((properties ++ [property]).map Property.name).idxOf a.name
        < ((properties ++ [property]).map Property.name).idxOf b.name := by
  refine h.ordered.imp_of_mem fun {a b} ha hb hlt => ?_
  have ha' := (h.covers a.name).1 (List.mem_map_of_mem ha)
  have hb' := (h.covers b.name).1 (List.mem_map_of_mem hb)
  rwa [List.map_append, List.idxOf_append_of_mem ha', List.idxOf_append_of_mem hb']

/-- And it has the same first properties. -/
theorem first_concat (h : Gathers properties parameters) (property : Property) :
    ∀ parameter ∈ parameters, ∃ first,
      (properties ++ [property]).find? (fun property => property.name = parameter.name)
          = some first ∧ first.type = parameter.type := by
  intro parameter hmem
  obtain ⟨first, hfirst, htype⟩ := h.first parameter hmem
  exact ⟨first, by rw [List.find?_append, hfirst, Option.some_or], htype⟩

/-- **A property more** is one more parameter, if its name is new. -/
theorem concat (h : Gathers properties parameters) (property : Property) :
    Gathers (properties ++ [property]) (addParameter parameters property) := by
  by_cases hmem : property.name ∈ parameters.map Parameter.name
  · rw [addParameter_of_mem hmem]
    refine ⟨h.distinct, fun name => ?_, h.ordered_concat property, h.first_concat property⟩
    rw [h.covers, List.map_append, List.mem_append, List.map_singleton, List.mem_singleton,
      or_iff_left_of_imp]
    rintro rfl
    exact (h.covers _).1 hmem
  · have hnew : property.name ∉ properties.map Property.name := fun hold =>
      hmem ((h.covers _).2 hold)
    rw [addParameter_of_not_mem hmem]
    constructor
    · rw [List.map_append, List.map_singleton, ← List.concat_eq_append]
      exact h.distinct.concat hmem
    · intro name
      rw [List.map_append, List.map_append, List.mem_append, List.mem_append, h.covers]
      rfl
    · refine List.pairwise_append.2 ⟨h.ordered_concat property, List.pairwise_singleton _ _,
        fun a ha b hb => ?_⟩
      rw [List.mem_singleton.1 hb, List.map_append]
      have ha' := (h.covers a.name).1 (List.mem_map_of_mem ha)
      rw [List.idxOf_append_of_mem ha', Parameter.ofProperty, List.idxOf_append_of_notMem hnew]
      exact Nat.lt_add_right _ (List.idxOf_lt_length_iff.2 ha')
    · intro parameter hparameter
      rcases List.mem_append.1 hparameter with hold | hlast
      · exact h.first_concat property parameter hold
      · rw [List.mem_singleton.1 hlast]
        refine ⟨property, ?_, rfl⟩
        have hnone : properties.find? (fun p => p.name = property.name) = none := by
          rw [List.find?_eq_none]
          intro other hother hname
          exact hnew (List.mem_map.2 ⟨other, hother, by simpa using hname⟩)
        rw [Parameter.ofProperty, List.find?_append, hnone]
        simp

end Gathers

/-- **What is collected** of properties stands for them. -/
theorem gathers_foldl (properties : List Property) :
    Gathers properties (properties.foldl addParameter []) := by
  induction properties using List.reverseRecOn with
  | nil => exact .nil
  | append_singleton properties property ih =>
    rw [List.foldl_append]
    exact ih.concat property

/-- What is collected behind some parameters are the properties of new names, without those whose
name came before. -/
theorem foldl_addParameter (properties : List Property) (parameters : List Parameter) :
    properties.foldl addParameter parameters
      = parameters ++ ((properties.filter fun p =>
          p.name ∉ parameters.map Parameter.name).eraseDupsBy fun p q => p.name == q.name).map
            .ofProperty := by
  induction properties generalizing parameters with
  | nil => simp
  | cons property rest ih =>
    rw [List.foldl_cons]
    by_cases hmem : property.name ∈ parameters.map Parameter.name
    · rw [addParameter_of_mem hmem, ih, List.filter_cons_of_neg (by simpa using hmem)]
    · have hfilter : ∀ p ∈ rest,
          decide (p.name ∉ (parameters ++ [Parameter.ofProperty property]).map Parameter.name)
            = (decide ((p.name == property.name) = false)
              && decide (p.name ∉ parameters.map Parameter.name)) := fun p _ => by
        rw [Bool.eq_iff_iff, decide_eq_true_iff, Bool.and_eq_true, decide_eq_true_iff,
          decide_eq_true_iff, List.map_append, List.mem_append, not_or, and_comm]
        simp [Parameter.ofProperty]
      rw [addParameter_of_not_mem hmem, ih, List.filter_cons_of_pos (by simpa using hmem),
        List.eraseDupsBy_cons, List.filter_filter, List.map_cons, List.append_assoc,
        List.filter_congr hfilter]
      rfl

theorem foldl_addParameter_nil (chain : List TypeDescriptor) :
    (chain.flatMap TypeDescriptor.properties).foldl addParameter [] = firstParameters chain := by
  rw [foldl_addParameter, List.nil_append, List.filter_eq_self.2 (by simp)]
  rfl

/-! ## Collecting over a lineage -/

/-- What is collected for a type are the first properties of its lineage, if this takes in no name
twice. -/
theorem TypeMap.flatten_eq_ok_iff {types : TypeMap} {type : TypeDescriptor} :
    types.flatten type = .ok parameters ↔
      ∃ chain, types.Lineage type chain ∧ (chain.map TypeDescriptor.key).Nodup ∧
        parameters = firstParameters chain := by
  rw [flatten, map_eq_ok_iff]
  simp only [ancestry_eq_ok_iff, foldl_addParameter_nil, and_assoc, eq_comm (a := parameters)]

/-- The first property of a name among those of some types is that of the first type that has
one. -/
theorem exists_nearest {chain : List TypeDescriptor} {name : String}
    (h : (chain.flatMap TypeDescriptor.properties).find? (fun p => p.name = name)
      = some property) :
    ∃ front nearest back, chain = front ++ nearest :: back ∧
      nearest.property? name = some property ∧ ∀ nearer ∈ front, nearer.property? name = none := by
  rw [List.find?_flatMap, List.findSome?_eq_some_iff] at h
  obtain ⟨front, nearest, back, heq, hfound, hnone⟩ := h
  exact ⟨front, nearest, back, heq, hfound, hnone⟩

/-- **The parameters of a type are its nearest properties.** Let the way up from a type of a map
end within the map, and let `chain` be the types on it, the type itself first. What is collected
are the properties of these types, one type behind the other, without those whose name came before:
the names are different, they are those of all properties, in the order in which they come first,
and each parameter has the type of the first property of its name in the nearest type that has one.
This is so wherever every type carries the name that it stands under, and in any other map where no
two types of the chain carry one name; only there a way up that ends is told from a loop. -/
theorem parameters_of_lineage (types : TypeMap) {key : ExpandedName} {type : TypeDescriptor}
    (hget : types.get? key = some type) {chain : List TypeDescriptor}
    (hlineage : types.Lineage type chain) :
    (types.OwnNamed ∨ (chain.map TypeDescriptor.key).Nodup →
        types.flatten type = .ok (firstParameters chain)) ∧
      ((∃ parameters, types.flatten type = .ok parameters) →
        (chain.map TypeDescriptor.key).Nodup) ∧
      Gathers (chain.flatMap TypeDescriptor.properties) (firstParameters chain) ∧
      ∀ parameter ∈ firstParameters chain, ∃ front nearest back property,
        chain = front ++ nearest :: back ∧
          nearest.property? parameter.name = some property ∧ property.type = parameter.type ∧
          ∀ nearer ∈ front, nearer.property? parameter.name = none := by
  have hgathers : Gathers (chain.flatMap TypeDescriptor.properties) (firstParameters chain) :=
    foldl_addParameter_nil chain ▸ gathers_foldl _
  refine ⟨fun hnames => ?_, fun ⟨parameters, hok⟩ => ?_, hgathers, fun parameter hmem => ?_⟩
  · have hnodup : (chain.map TypeDescriptor.key).Nodup := by
      rcases hnames with hown | hnodup
      · exact hlineage.nodup_keys hown (by rwa [hown key type hget])
      · exact hnodup
    exact TypeMap.flatten_eq_ok_iff.2 ⟨chain, hlineage, hnodup, rfl⟩
  · obtain ⟨found, hlineage', hnodup, -⟩ := TypeMap.flatten_eq_ok_iff.1 hok
    rwa [hlineage.unique hlineage']
  · obtain ⟨property, hfirst, htype⟩ := hgathers.first parameter hmem
    obtain ⟨front, nearest, back, heq, hfound, hnone⟩ := exists_nearest hfirst
    exact ⟨front, nearest, back, property, heq, hfound, htype, hnone⟩

/-- A type that others extend, with properties of its own. -/
def baseOrder : TypeDescriptor :=
  { TypeDescriptor.ofKey ⟨"", "Base"⟩ "" "" with
    properties := [{ name := "id", type := .scalar .integer, source := "s:int" },
      { name := "shared", type := .scalar .integer, source := "s:int" }] }

/-- It has two properties of one name, and one of a name that its parent has, too. -/
def taggedOrder : TypeDescriptor :=
  { TypeDescriptor.ofKey ⟨"", "Order"⟩ "" "" with
    parent := some ⟨"", "Base"⟩
    properties := [{ name := "tags", type := .array (.scalar .string), source := "s:string" },
      { name := "shared", type := .scalar .boolean, source := "s:boolean" },
      { name := "tags", type := .scalar .float, source := "s:double" }] }

/-- The nearest property of each name counts, and the first one within a type. -/
theorem parameters_of_lineage_taggedOrder :
    let types : TypeMap :=
      (SortedMap.empty.insert taggedOrder.key taggedOrder).insert baseOrder.key baseOrder
    types.Lineage taggedOrder [taggedOrder, baseOrder] ∧
      types.flatten taggedOrder = .ok [⟨"tags", .array (.scalar .string)⟩,
        ⟨"shared", .scalar .boolean⟩, ⟨"id", .scalar .integer⟩] := by
  intro types
  have hget : types.get? taggedOrder.key = some taggedOrder := by decide +kernel
  have hparent : types.get? baseOrder.key = some baseOrder := by decide +kernel
  have hlineage : types.Lineage taggedOrder [taggedOrder, baseOrder] :=
    .link rfl hparent (.last rfl)
  have hown : types.OwnNamed := by decide +kernel
  exact ⟨hlineage, (parameters_of_lineage types hget hlineage).1 (Or.inl hown)⟩

/-- Where types stand under other names than their own, a way up that ends may still be refused:
here the parent carries the name of its child, which counts as that name met again. -/
theorem flatten_of_shared_name :
    let parent := { baseOrder with key := taggedOrder.key }
    let types : TypeMap :=
      (SortedMap.empty.insert taggedOrder.key taggedOrder).insert baseOrder.key parent
    types.get? taggedOrder.key = some taggedOrder ∧
      types.Lineage taggedOrder [taggedOrder, parent] ∧
      types.flatten taggedOrder = .error (.inheritanceLoop taggedOrder.key) := by
  intro parent types
  have hparent : types.get? baseOrder.key = some parent := by decide +kernel
  exact ⟨by decide +kernel, .link rfl hparent (.last rfl), by decide +kernel⟩

end WsdlTypes
