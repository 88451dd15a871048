import WsdlTypes.Proofs.Declaration.Members
import WsdlTypes.Proofs.Session.Merged
import WsdlTypes.Proofs.Session.Value
/-!
# The members of types that were merged

A type has the members of all declarations of its name, one declaration behind the other
(`Session.map_snd_partsOf`). So a value that comes first in its declaration need not come first in
the type, and there may be two of them. It is the one value, first and with attributes behind it,
exactly where one declaration has a value, those before it have no members, and those behind it
have attributes alone (`Session.value_first_iff`). Of a name that is declared once this is always
so.
-/

namespace WsdlTypes

open Declaration (Shape)

/-- A value that is the first member and the only one called like values, with nothing but
attributes behind it. -/
def ValueFirst (valueName : String) (ms : List (Origin × Property)) : Prop :=
  (ms.countP fun m => m.2.name = valueName) = 1 ∧
    (ms.head?.map fun m => m.2.name) = some valueName ∧
    ∀ m ∈ ms.tail, m.1 = .attribute

/-- One of some declarations has a value, those before it have no members, and those behind it
have attributes alone. -/
def OneValue (parts : List (List (Origin × Property))) : Prop :=
  ∃ front part back, parts = front ++ part :: back ∧ (∀ other ∈ front, other = []) ∧
    (∃ m ∈ part, m.1 = .value) ∧ ∀ other ∈ back, ∀ m ∈ other, m.1 = .attribute

variable {valueName : String} {ms part : List (Origin × Property)}
variable {parts : List (List (Origin × Property))}

/-- Where the value alone is called like values, it is first where a value is, with attributes
behind it. -/
theorem valueFirst_iff_exists_eq_cons (hname : ∀ m ∈ ms, m.2.name = valueName ↔ m.1 = .value) :
    ValueFirst valueName ms ↔
      ∃ m rest, ms = m :: rest ∧ m.1 = .value ∧ ∀ other ∈ rest, other.1 = .attribute := by
  constructor
  · rintro ⟨-, hhead, htail⟩
    cases ms with
    | nil => cases hhead
    | cons m rest =>
      exact ⟨m, rest, rfl, (hname m List.mem_cons_self).1 (Option.some.inj hhead), htail⟩
  · rintro ⟨m, rest, rfl, hvalue, hrest⟩
    have hfirst : m.2.name = valueName := (hname m List.mem_cons_self).2 hvalue
    have hothers : (rest.countP fun m => m.2.name = valueName) = 0 := by
      rw [List.countP_eq_zero]
      intro other hother hcalled
      have hvalue := (hname other (List.mem_cons_of_mem _ hother)).1 (by simpa using hcalled)
      rw [hrest other hother] at hvalue
      cases hvalue
    refine ⟨?_, congrArg some hfirst, hrest⟩
    rw [List.countP_cons_of_pos (by simpa using hfirst), hothers]

theorem oneValue_nil_cons : OneValue ([] :: parts) ↔ OneValue parts := by
  constructor
  · rintro ⟨front, part, back, heq, hfront, hpart, hback⟩
    cases front with
    | nil =>
      obtain ⟨rfl, -⟩ := List.cons.inj heq
      obtain ⟨m, hm, -⟩ := hpart
      cases hm
    | cons first front =>
      obtain ⟨-, rfl⟩ := List.cons.inj heq
      exact ⟨front, part, back, rfl, fun other hother =>
        hfront other (List.mem_cons_of_mem _ hother), hpart, hback⟩
  · rintro ⟨front, part, back, rfl, hfront, hpart, hback⟩
    refine ⟨[] :: front, part, back, rfl, fun other hother => ?_, hpart, hback⟩
    rcases List.mem_cons.1 hother with rfl | hother
    · rfl
    · exact hfront other hother

/-- A declaration with members is the one that has the value, or there is none such. -/
theorem oneValue_cons_of_ne_nil (hne : part ≠ []) : OneValue (part :: parts) ↔
    (∃ m ∈ part, m.1 = .value) ∧ ∀ other ∈ parts, ∀ m ∈ other, m.1 = .attribute := by
  constructor
  · rintro ⟨front, one, back, heq, hfront, hpart, hback⟩
    cases front with
    | nil =>
      obtain ⟨rfl, rfl⟩ := List.cons.inj heq
      exact ⟨hpart, hback⟩
    | cons first front =>
      obtain ⟨rfl, -⟩ := List.cons.inj heq
      exact absurd (hfront _ List.mem_cons_self) hne
  · rintro ⟨hpart, hback⟩
    exact ⟨[], part, parts, rfl, fun _ h => absurd h List.not_mem_nil, hpart, hback⟩

/-- **The value of a type is the one and the first** exactly where one of its declarations has a
value, and the others leave it in its place. -/
theorem valueFirst_flatten_iff (hshape : ∀ part ∈ parts, Shape valueName part) :
    ValueFirst valueName parts.flatten ↔ OneValue parts := by
  rw [valueFirst_iff_exists_eq_cons fun m hm => ?_]
  · induction parts with
    | nil =>
      constructor
      · rintro ⟨m, rest, heq, -⟩
        cases heq
      · rintro ⟨front, part, back, heq, -⟩
        exact absurd heq.symm (List.append_ne_nil_of_right_ne_nil _ (List.cons_ne_nil _ _))
    | cons part parts ih =>
      have hrest := ih fun other hother => hshape other (List.mem_cons_of_mem _ hother)
      cases part with
      | nil => rw [List.flatten_cons, List.nil_append, oneValue_nil_cons, hrest]
      | cons first more =>
        rw [oneValue_cons_of_ne_nil (List.cons_ne_nil _ _), List.flatten_cons, List.cons_append]
        constructor
        · rintro ⟨m, rest, heq, hvalue, hattributes⟩
          obtain ⟨rfl, rfl⟩ := List.cons.inj heq
          exact ⟨⟨first, List.mem_cons_self, hvalue⟩, fun other hother m hm => hattributes m
            (List.mem_append_right _ (List.mem_flatten.2 ⟨other, hother, hm⟩))⟩
        · rintro ⟨⟨m, hm, hvalue⟩, hattributes⟩
          obtain ⟨rest, heq, hmore⟩ :=
            (hshape _ List.mem_cons_self).eq_cons_of_value hm hvalue
          obtain ⟨rfl, rfl⟩ := List.cons.inj heq
          refine ⟨first, more ++ parts.flatten, rfl, hvalue, fun other hother => ?_⟩
          rcases List.mem_append.1 hother with hother | hother
          · exact hmore other hother
          · obtain ⟨part, hpart, hother⟩ := List.mem_flatten.1 hother
            exact hattributes part hpart other hother
  · obtain ⟨part, hpart, hm⟩ := List.mem_flatten.1 hm
    exact (hshape part hpart).name_eq_iff hm

namespace Session

variable {session : Session} {c : Call} {key : ExpandedName}

/-! ## The declarations of a type -/

/-- The members of a declaration among some documents. -/
def membersOf (config : Config) (d : Catalog × Schema × Xml.Element) : List (Origin × Property) :=
  Declaration.members config d.1 d.2.1 d.2.2

/-- The members of the declarations of a name that some calls walk, declaration by declaration. -/
def partsOf (session : Session) (l : List Call) (key : ExpandedName) :
    List (List (Origin × Property)) :=
  ((session.declarations l).filter fun d =>
    (descriptor? session.config d).any fun type => type.key = key).map (membersOf session.config)

/-- The properties of some descriptors of a name are the members of the declarations. -/
theorem flatMap_properties (config : Config) (key : ExpandedName)
    (ds : List (Catalog × Schema × Xml.Element)) :
    ((ds.filterMap (descriptor? config)).filter fun part => part.key = key).flatMap
        TypeDescriptor.properties
      = ((ds.filter fun d => (descriptor? config d).any fun type => type.key = key).map
          (membersOf config)).flatten.map Prod.snd := by
  induction ds with
  | nil => rfl
  | cons d rest ih =>
    cases hdescribe : descriptor? config d with
    | none =>
      rw [List.filterMap_cons_none hdescribe, List.filter_cons_of_neg (by simp [hdescribe])]
      exact ih
    | some type =>
      rw [List.filterMap_cons_some hdescribe]
      by_cases hkey : type.key = key
      · rw [List.filter_cons_of_pos (by simpa using hkey),
          List.filter_cons_of_pos (by simpa [hdescribe] using hkey), List.flatMap_cons, ih,
          List.map_cons, List.flatten_cons, List.map_append]
        congr 1
        exact (Declaration.map_snd_members hdescribe).symm
      · rw [List.filter_cons_of_neg (by simpa using hkey),
          List.filter_cons_of_neg (by simpa [hdescribe] using hkey)]
        exact ih

/-- **The properties of a type** are the members of the declarations of its name, one behind the
other. -/
theorem map_snd_partsOf {config : Config} {l : List Call} {type : TypeDescriptor}
    (h : ((Session.new config).calls l).types.get? key = some type) :
    ((Session.new config).partsOf l key).flatten.map Prod.snd = type.properties := by
  rw [((combined_new_calls config l).combines key type h).properties]
  exact (flatMap_properties config key _).symm

/-! ## What is free of values -/

/-- Where the documents are free of values in the end, they were so all along. -/
theorem FreeOfValues.of_calls (hnumbered : session.library.Numbered) (l : List Call)
    (h : (session.calls l).FreeOfValues) : session.FreeOfValues := by
  induction l generalizing session with
  | nil => exact h
  | cons c rest ih => exact (ih (call_order hnumbered).1 h).of_call hnumbered

/-- And so is every declaration that was walked. -/
theorem FreeOfValues.of_mem_declarations (hnumbered : session.library.Numbered) {l : List Call}
    (h : (session.calls l).FreeOfValues) {d : Catalog × Schema × Xml.Element}
    (hd : d ∈ session.declarations l) :
    WsdlTypes.FreeOfValues session.config.valueName d.2.2 := by
  induction l generalizing session with
  | nil => cases hd
  | cons c rest ih =>
    have hnext : (session.call c).library.Numbered := (call_order hnumbered).1
    rw [← config_call (c := c)]
    rcases List.mem_append.1 hd with hd | hd
    · obtain ⟨own, hown, rfl⟩ := List.mem_map.1 hd
      exact (FreeOfValues.of_calls hnext rest h).of_mem_declarationsOf hown
    · exact ih hnext h hd

theorem shape_of_mem_partsOf (hnumbered : session.library.Numbered) {l : List Call}
    (h : (session.calls l).FreeOfValues) {part : List (Origin × Property)}
    (hpart : part ∈ session.partsOf l key) : Shape session.config.valueName part := by
  obtain ⟨d, hd, rfl⟩ := List.mem_map.1 hpart
  exact Declaration.shape_members
    (FreeOfValues.of_mem_declarations hnumbered h (List.mem_filter.1 hd).1)

/-- **When a type has one value, and first.** Let no element and no attribute of the documents that
came in be called like values are configured to be. After any calls the properties of a type are
the members of the declarations of its name, in the order in which they were walked. A value is the
one property that is called so, and the first, with nothing but attributes behind it, exactly
where one of these declarations has a value, those before it have no members, and those behind it
have attributes alone; in particular wherever the name is declared once and there is a property
that is called like values. -/
theorem value_first_iff (config : Config) (l : List Call)
    (hfree : ((Session.new config).calls l).FreeOfValues) :
    ∀ key type, ((Session.new config).calls l).types.get? key = some type →
      let parts := (Session.new config).partsOf l key
      parts.flatten.map Prod.snd = type.properties ∧
        (ValueFirst config.valueName parts.flatten ↔ OneValue parts) ∧
        (parts.length = 1 → config.valueName ∈ type.properties.map Property.name →
          ValueFirst config.valueName parts.flatten) := by
  intro key type hget parts
  have hshape : ∀ part ∈ parts, Shape config.valueName part := fun part hpart =>
    shape_of_mem_partsOf (numbered_new config) hfree hpart
  have hproperties : parts.flatten.map Prod.snd = type.properties := map_snd_partsOf hget
  have hiff := valueFirst_flatten_iff hshape
  refine ⟨hproperties, hiff, fun hone hcalled => hiff.2 ?_⟩
  obtain ⟨part, hpart⟩ := List.length_eq_one_iff.1 hone
  rw [← hproperties, hpart, List.flatten_singleton] at hcalled
  obtain ⟨property, hproperty, hname⟩ := List.mem_map.1 hcalled
  obtain ⟨m, hm, rfl⟩ := List.mem_map.1 hproperty
  have hvalue := ((hshape part (hpart ▸ List.mem_singleton_self part)).name_eq_iff hm).1 hname
  exact ⟨[], part, [], hpart, fun _ h => absurd h List.not_mem_nil, ⟨m, hm, hvalue⟩,
    fun _ h => absurd h List.not_mem_nil⟩

/-- A value with an attribute behind it, and one more attribute for the same name. -/
def valueAndAttributes : File.Tree :=
  .ofTexts
    [("a", Schema.text "" <|
      "<s:complexType name='T'><s:simpleContent><s:extension base='s:string'>"
        ++ "<s:attribute name='x'/></s:extension></s:simpleContent></s:complexType>"
        ++ "<s:complexType name='T'><s:attribute name='y'/></s:complexType>")]

theorem value_first_valueAndAttributes :
    let session := (Session.new {}).calls [⟨valueAndAttributes, "a"⟩]
    (session.types.get? ⟨"", "T"⟩).map (fun type => type.properties.map Property.name)
        = some ["_", "x", "y"] ∧
      ∀ key type, session.types.get? key = some type →
        let parts := (Session.new {}).partsOf [⟨valueAndAttributes, "a"⟩] key
        parts.flatten.map Prod.snd = type.properties ∧
          (ValueFirst "_" parts.flatten ↔ OneValue parts) ∧
          (parts.length = 1 → "_" ∈ type.properties.map Property.name →
            ValueFirst "_" parts.flatten) :=
  have hfree : ((Session.new {}).calls [⟨valueAndAttributes, "a"⟩]).FreeOfValues ∧
      (((Session.new {}).calls [⟨valueAndAttributes, "a"⟩]).types.get? ⟨"", "T"⟩).map
        (fun type => type.properties.map Property.name) = some ["_", "x", "y"] := by
    decide +kernel
  ⟨hfree.2, value_first_iff {} _ hfree.1⟩

/-- Two simple types of one name. -/
def twoValues : File.Tree :=
  .ofTexts
    [("a", Schema.text "" <|
      "<s:simpleType name='T'><s:restriction base='s:string'/></s:simpleType>"
        ++ "<s:simpleType name='T'><s:restriction base='s:string'/></s:simpleType>")]

/-- **Two declarations of one name may give a type two values**, although no element and no
attribute is called like them. -/
theorem two_values_of_one_name :
    ((Session.new {}).calls [⟨twoValues, "a"⟩]).FreeOfValues ∧
      (((Session.new {}).calls [⟨twoValues, "a"⟩]).types.get? ⟨"", "T"⟩).map
        (fun type => type.properties.map Property.name) = some ["_", "_"] := by
  decide +kernel

end Session

end WsdlTypes
