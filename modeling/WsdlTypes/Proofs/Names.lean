import WsdlTypes.TypeName
/-!
# What a name comes to

The meaning of a prefixed name apart from what is reported about it (`QName.meaning`): the
scope of the element and the namespace of the schema decide it, and the local part stays as it
is written.
-/

namespace WsdlTypes

/-- The expanded name that a name means in a scope, inside a target namespace; one whose prefix
nothing binds is taken to lie there. -/
def QName.meaning (scope : Xml.Scope) (target qname : String) : ExpandedName :=
  match expand scope target qname with
  | .ok key => key
  | .error _ => ⟨target, (split qname).2⟩

/-- The local part of a name is the part behind its prefix. -/
theorem QName.name_meaning (scope : Xml.Scope) (target qname : String) :
    (meaning scope target qname).name = (split qname).2 := by
  unfold meaning expand
  rcases split qname with ⟨nsPrefix, name⟩
  cases huri : uri? scope nsPrefix with
  | some uri => simp only [huri]
  | none =>
    by_cases hown : nsPrefix = "" ∨ nsPrefix = "tns"
    · simp only [huri, if_pos hown]
    · simp only [huri, if_neg hown]

namespace Schema

variable (schema : Schema) (e : Xml.Element) (qname : String)

@[simp] theorem value_expand :
    (schema.expand e qname).value = QName.meaning e.scope schema.target qname := by
  unfold expand expand? QName.meaning
  cases QName.expand e.scope schema.target qname with
  | ok key => rfl
  | error cause => rfl

@[simp] theorem value_typeName :
    (schema.typeName e qname).value
      = TypeName.ofKey (QName.meaning e.scope schema.target qname) := by
  rw [typeName, Report.value_map, value_expand]

end Schema

end WsdlTypes
