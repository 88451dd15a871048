import Mathlib.Data.List.Induction
import Mathlib.Data.Nat.Digits.Defs
import WsdlTypes.Member
import WsdlTypes.Proofs.Declaration.Inline
/-!
# Elements that may occur more than once

The largest number of occurrences of an element is written as `unbounded` or as a decimal numeral
(`Repetition.Denotes`), with blanks around it or not. A number above one makes an array of what the
element would be on its own (`Member.type_of_repeated`): exactly one layer, and none otherwise. That
is so as long as the number is understood (`Repetition.Understood`): it has to be below a bound, and
`unbounded` has to stand alone. What is not understood counts as one
(`Member.large_numbers_make_no_array`).
-/

namespace WsdlTypes

/-! ## Numerals -/

namespace Repetition

variable {digits chars : List Char} {text : String} {n m : Nat}

/-- The number that a row of decimal digits denotes, the last of which counts least. -/
def valueOf (digits : List Char) : Nat :=
  Nat.ofDigits 10 (digits.map fun c => c.toNat - '0'.toNat).reverse

/-- A row of digits, at least one. -/
def IsDigits (digits : List Char) : Prop := digits ≠ [] ∧ ∀ c ∈ digits, c.isDigit = true

/-- A decimal numeral of any length, with a plus sign or without, denotes a number. -/
inductive Denotes : List Char → Nat → Prop where
  | unsigned {digits : List Char} (h : IsDigits digits) : Denotes digits (valueOf digits)
  | signed {digits : List Char} (h : IsDigits digits) : Denotes ('+' :: digits) (valueOf digits)

/-- Digits that are read one after the other come to the number that they denote. -/
theorem foldl_digits (digits : List Char) :
    digits.foldl (fun n c => 10 * n + (c.toNat - '0'.toNat)) 0 = valueOf digits := by
  induction digits using List.reverseRecOn with
  | nil => rfl
  | append_singleton digits c ih =>
    rw [List.foldl_append, ih, valueOf, valueOf, List.map_append, List.reverse_append]
    exact Nat.add_comm _ _

theorem ofDigits?_eq_some_iff :
    ofDigits? digits = some n ↔ IsDigits digits ∧ valueOf digits = n := by
  have hrow : (digits.isEmpty || !digits.all Char.isDigit) = false ↔ IsDigits digits := by
    simp [IsDigits]
  unfold ofDigits?
  split
  · rename_i hnot
    refine ⟨nofun, fun h => ?_⟩
    rw [hrow.2 h.1] at hnot
    cases hnot
  · rename_i hnot
    rw [Bool.not_eq_true, hrow] at hnot
    rw [Option.some.injEq, foldl_digits, and_iff_right hnot]

/-- A plus sign is no digit. -/
theorem not_isDigits_plus : ¬IsDigits ('+' :: digits) := fun h =>
  absurd (h.2 '+' List.mem_cons_self) (by decide)

/-- **A numeral is read as the number that it denotes**, if this is below the bound. -/
theorem ofNumeral?_eq_some_iff :
    ofNumeral? text = some n ↔ Denotes text.toList n ∧ n < numeralBound := by
  rw [ofNumeral?, Option.filter_eq_some_iff, decide_eq_true_eq]
  refine and_congr_left fun _ => ?_
  split
  · rename_i rest hplus
    rw [ofDigits?_eq_some_iff, hplus]
    constructor
    · rintro ⟨hdigits, rfl⟩
      exact .signed hdigits
    · intro h
      cases h with
      | unsigned hdigits => exact absurd hdigits not_isDigits_plus
      | signed hdigits => exact ⟨hdigits, rfl⟩
  · rename_i hplain
    rw [ofDigits?_eq_some_iff]
    constructor
    · rintro ⟨hdigits, rfl⟩
      exact .unsigned hdigits
    · intro h
      generalize text.toList = chars at h hplain
      cases h with
      | unsigned hdigits => exact ⟨hdigits, rfl⟩
      | signed => exact absurd rfl (hplain _)

/-- A numeral denotes one number. -/
theorem Denotes.unique (h : Denotes chars n) (h' : Denotes chars m) : n = m := by
  cases h with
  | unsigned hdigits =>
    cases h' with
    | unsigned => rfl
    | signed => exact absurd hdigits not_isDigits_plus
  | signed hdigits =>
    cases h' with
    | unsigned hplus => exact absurd hplus not_isDigits_plus
    | signed => rfl

theorem not_denotes_unbounded : ¬Denotes "unbounded".toList n := by
  generalize hchars : "unbounded".toList = chars
  rintro (⟨-, hdigits⟩ | -)
  · exact absurd (hdigits 'u' (hchars ▸ by decide)) (by decide)
  · exact absurd hchars (by simp)

/-! ## Numbers of occurrences -/

/-- A largest number of occurrences is above one, or there is none. -/
def AllowsMany (text : String) : Prop :=
  Text.trim text = "unbounded" ∨ ∃ n, Denotes (Text.trim text).toList n ∧ 1 < n

/-- A largest number of occurrences is one that is understood: there are no blanks around
`unbounded`, and a numeral denotes a number below the bound. -/
structure Understood (text : String) : Prop where
  alone : Text.trim text = "unbounded" → text = "unbounded"
  bounded : ∀ n, Denotes (Text.trim text).toList n → n < numeralBound

theorem trim_unbounded : Text.trim "unbounded" = "unbounded" := by decide

/-- **More than one is understood where more than one is allowed**, and not everywhere there. -/
theorem isMany_iff : isMany (some text) = true ↔ AllowsMany text ∧ Understood text := by
  have hany : (ofNumeral? (Text.trim text)).any (1 < ·) = true ↔
      ∃ n, (Denotes (Text.trim text).toList n ∧ n < numeralBound) ∧ 1 < n := by
    simp only [Option.any_eq_true, ofNumeral?_eq_some_iff, decide_eq_true_eq]
  rw [isMany, Bool.or_eq_true, beq_iff_eq, hany]
  constructor
  · rintro (rfl | ⟨n, ⟨hn, hbound⟩, hmany⟩)
    · refine ⟨Or.inl trim_unbounded, fun _ => rfl, fun n hn => ?_⟩
      rw [trim_unbounded] at hn
      exact absurd hn not_denotes_unbounded
    · refine ⟨Or.inr ⟨n, hn, hmany⟩, fun hunbounded => ?_, fun m hm => hm.unique hn ▸ hbound⟩
      rw [hunbounded] at hn
      exact absurd hn not_denotes_unbounded
  · rintro ⟨hunbounded | ⟨n, hn, hmany⟩, hunderstood⟩
    · exact Or.inl (hunderstood.alone hunbounded)
    · exact Or.inr ⟨n, ⟨hn, hunderstood.bounded n hn⟩, hmany⟩

end Repetition

/-! ## Elements without an attribute -/

namespace Xml.Element

variable {e : Element} {name other uri tag : String}

/-- The element without an attribute. -/
def withoutAttribute (name : String) : Element → Element
  | mk start content =>
    mk { start with
      attributes := start.attributes.filter fun a => !(a.uri = none && a.name = name) }
      content

@[simp] theorem hasTag_withoutAttribute :
    (e.withoutAttribute name).hasTag uri tag = e.hasTag uri tag := by
  cases e; rfl

@[simp] theorem elements_withoutAttribute :
    (e.withoutAttribute name).elements = e.elements := by
  cases e; rfl

@[simp] theorem scope_withoutAttribute : (e.withoutAttribute name).scope = e.scope := by
  cases e; rfl

@[simp] theorem line_withoutAttribute : (e.withoutAttribute name).line = e.line := by
  cases e; rfl

theorem attribute?_withoutAttribute_self : (e.withoutAttribute name).attribute? name = none := by
  obtain ⟨start, content⟩ := e
  rw [attribute?, Option.map_eq_none_iff, List.find?_eq_none]
  intro a ha
  have hkept := (List.mem_filter.1 ha).2
  simpa [imp_iff_not_or] using hkept

theorem attribute?_withoutAttribute_of_ne (h : other ≠ name) :
    (e.withoutAttribute name).attribute? other = e.attribute? other := by
  obtain ⟨start, content⟩ := e
  simp only [attribute?, withoutAttribute, start_mk, List.find?_filter]
  congr 2
  funext a
  by_cases ha : a.name = other
  · simp [ha, h]
  · simp [ha]

theorem derivation?_withoutAttribute :
    SimpleType.derivation? (e.withoutAttribute name) = SimpleType.derivation? e := by
  have hchild : (e.withoutAttribute name).child? schemaUri "simpleType"
      = e.child? schemaUri "simpleType" := by
    rw [child?, elements_withoutAttribute, child?]
  simp only [SimpleType.derivation?, hasTag_withoutAttribute, hchild]
  split
  · rw [elements_withoutAttribute]
  · cases e.child? schemaUri "simpleType" with
    | none => simp only [Option.getD_none, elements_withoutAttribute]
    | some child => rfl

end Xml.Element

namespace Member

variable (catalog : Catalog) (schema : Schema) (e : Xml.Element) {name : String}

/-! ## Elements on their own -/

theorem expand_withoutAttribute (qname : String) :
    schema.expand (e.withoutAttribute name) qname = schema.expand e qname := by
  simp only [Schema.expand, Schema.expand?, Schema.report, Xml.Element.scope_withoutAttribute,
    Xml.Element.line_withoutAttribute]

/-- How often an element may occur does not matter for what it is on its own. -/
theorem ofSingleElement_withoutAttribute :
    ofSingleElement catalog schema (e.withoutAttribute "maxOccurs")
      = ofSingleElement catalog schema e := by
  have hother : ∀ other, other ≠ "maxOccurs" →
      (e.withoutAttribute "maxOccurs").attribute? other = e.attribute? other :=
    fun other h => Xml.Element.attribute?_withoutAttribute_of_ne h
  have hsimple : ∀ name, SimpleType.property? catalog schema name (e.withoutAttribute "maxOccurs")
      = SimpleType.property? catalog schema name e :=
    fun name => SimpleType.property?_congr Xml.Element.derivation?_withoutAttribute
  simp only [ofSingleElement, ofElementReference, ofDeclaration, Schema.typeName,
    Xml.Element.attributeD, expand_withoutAttribute, hsimple, hother "ref" (by decide),
    hother "name" (by decide), hother "type" (by decide)]

/-- The element without a largest number of occurrences has the type of the element on its own. -/
theorem type_ofElement_withoutAttribute :
    (ofElement catalog schema (e.withoutAttribute "maxOccurs")).value.type
      = (ofSingleElement catalog schema e).value.type := by
  simp only [ofElement, ofSingleElement_withoutAttribute,
    Xml.Element.attribute?_withoutAttribute_self, Report.value_bind, Report.value_pure]
  rfl

/-- **An array for more than one, the type itself otherwise.** Whatever an element refers to,
whatever its type and wherever this is declared: if it has a largest number of occurrences which is
above one and is understood, its type is an array of the type that the element has without the
attribute. In every other case there is no such layer. -/
theorem type_of_repeated (catalog : Catalog) (schema : Schema) (e : Xml.Element) :
    let single := (ofElement catalog schema (e.withoutAttribute "maxOccurs")).value.type
    let type := (ofElement catalog schema e).value.type
    ((∃ text, e.attribute? "maxOccurs" = some text ∧
        Repetition.AllowsMany text ∧ Repetition.Understood text) → type = .array single) ∧
      ((¬∃ text, e.attribute? "maxOccurs" = some text ∧
        Repetition.AllowsMany text ∧ Repetition.Understood text) → type = single) := by
  intro single type
  have hmany : Repetition.isMany (e.attribute? "maxOccurs") = true ↔
      ∃ text, e.attribute? "maxOccurs" = some text ∧
        Repetition.AllowsMany text ∧ Repetition.Understood text := by
    cases e.attribute? "maxOccurs" with
    | none => simp [Repetition.isMany]
    | some text => simp [Repetition.isMany_iff]
  have htype : type = if Repetition.isMany (e.attribute? "maxOccurs") then .array single
      else single := by
    simp only [single, type_ofElement_withoutAttribute]
    rfl
  rw [← hmany, htype]
  exact ⟨fun h => if_pos h, fun h => if_neg h⟩

open Declaration (tagOn plainSchema)

/-- An element of whole numbers with a largest number of occurrences. -/
def numbersUpTo (text : String) : Xml.Element :=
  tagOn "element" [("name", "n"), ("maxOccurs", text), ("type", "s:int")] 1 []

/-- What the element is, with the number of its occurrences and on its own. -/
def numbersTypes (text : String) : ResolvedType × ResolvedType :=
  ((ofElement ⟨[], []⟩ plainSchema (numbersUpTo text)).value.type,
    (ofElement ⟨[], []⟩ plainSchema ((numbersUpTo text).withoutAttribute "maxOccurs")).value.type)

/-- A sign, zeros in front and blanks around a numeral change nothing. -/
theorem type_of_repeated_paddedNumerals :
    Repetition.AllowsMany " +0002\t" ∧ Repetition.Understood " +0002\t" ∧
      numbersTypes " +0002\t" = (.array (.scalar .integer), .scalar .integer) ∧
      ¬(Repetition.AllowsMany " +0001 " ∧ Repetition.Understood " +0001 ") ∧
      numbersTypes " +0001 " = (.scalar .integer, .scalar .integer) := by
  have htwo := Repetition.isMany_iff.1 (by decide : Repetition.isMany (some " +0002\t") = true)
  have hone : ¬(Repetition.AllowsMany " +0001 " ∧ Repetition.Understood " +0001 ") := fun h =>
    absurd (Repetition.isMany_iff.2 h) (by decide)
  have harray : (numbersTypes " +0002\t").1 = .array (numbersTypes " +0002\t").2 :=
    (type_of_repeated ⟨[], []⟩ plainSchema (numbersUpTo " +0002\t")).1 ⟨_, rfl, htwo⟩
  have hsame : (numbersTypes " +0001 ").1 = (numbersTypes " +0001 ").2 := by
    refine (type_of_repeated ⟨[], []⟩ plainSchema (numbersUpTo " +0001 ")).2 ?_
    rintro ⟨text, htext, h⟩
    cases htext
    exact hone h
  have htabbed : (numbersTypes " +0002\t").2 = .scalar .integer := by decide
  have hspaced : (numbersTypes " +0001 ").2 = .scalar .integer := by decide
  rw [htabbed] at harray
  rw [hspaced] at hsame
  exact ⟨htwo.1, htwo.2, Prod.ext harray htabbed, hone, Prod.ext hsame hspaced⟩

/-- **What is not understood counts as one.** An element may occur a number of times that is not
below the bound, or any number of times with blanks around the word for it; no array is made. -/
theorem large_numbers_make_no_array :
    Repetition.AllowsMany "18446744073709551616" ∧
      numbersTypes "18446744073709551616" = (.scalar .integer, .scalar .integer) ∧
      Repetition.AllowsMany " unbounded " ∧
      numbersTypes " unbounded " = (.scalar .integer, .scalar .integer) := by
  have hnumber : Repetition.AllowsMany "18446744073709551616" := by
    have hdigits := Repetition.ofDigits?_eq_some_iff.1
      (by decide : Repetition.ofDigits? (Text.trim "18446744073709551616").toList
        = some 18446744073709551616)
    exact Or.inr ⟨_, .unsigned hdigits.1, by rw [hdigits.2]; decide⟩
  exact ⟨hnumber, by decide, Or.inl (by decide), by decide⟩

end Member

end WsdlTypes
