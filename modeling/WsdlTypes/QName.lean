import WsdlTypes.ExpandedName
import WsdlTypes.Text.Quoted
import WsdlTypes.Text.Split
import WsdlTypes.Xml.Element
/-!
# Names with prefixes in values

Attributes name declarations by a prefix and a local name. Which namespace a prefix means
depends on the element that the attribute stands on; a name without a prefix, where no
default namespace is in scope, belongs to the namespace that the document declares, and
so does one with the customary prefix `tns` where that is not declared.
-/

namespace WsdlTypes

/-- A prefix that nothing in scope binds. -/
structure UnboundPrefix where
  nsPrefix : String
deriving DecidableEq, Repr

/-- The cause in words. -/
def UnboundPrefix.message (e : UnboundPrefix) : String :=
  "Failed to resolve prefix " ++ Text.quoted e.nsPrefix ++ " to a namespace URI"

namespace QName

/-- The prefix and the local name; a name without a colon has an empty prefix. -/
def split (qname : String) : String × String :=
  match Text.splitOnce? ':' qname.toList with
  | some (front, back) => (String.ofList front, String.ofList back)
  | none => ("", qname)

/-- The namespace that a prefix means in a scope. -/
def uri? (scope : Xml.Scope) (nsPrefix : String) : Option String :=
  if nsPrefix = "xml" then some Xml.xmlUri else scope.uri? nsPrefix

/-- The expanded name that a name means in a scope, inside a target namespace. -/
def expand (scope : Xml.Scope) (target qname : String) : Except UnboundPrefix ExpandedName :=
  let (nsPrefix, name) := split qname
  match uri? scope nsPrefix with
  | some uri => .ok ⟨uri, name⟩
  | none =>
    if nsPrefix = "" ∨ nsPrefix = "tns" then .ok ⟨target, name⟩ else .error ⟨nsPrefix⟩

end QName

end WsdlTypes
