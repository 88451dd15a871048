import WsdlTypes.ExpandedName
import WsdlTypes.Text.Word
import WsdlTypes.Url.Parse
/-!
# Naming generated types

Generated code groups types by namespace. The path of a namespace starts with the host of
its URI, most general part first, and goes on with the path of the URI; a URI that names
no host is taken apart at its slashes. What may not stand in a name becomes an
underscore. A flat style puts every type at the root instead.
-/

namespace WsdlTypes

/-- How types are grouped. -/
inductive NamingStyle where
  | hierarchical
  | flat
deriving DecidableEq, Repr

/-- How namespaces and types are named. -/
structure Naming where
  style : NamingStyle
  separator : String
deriving DecidableEq, Repr

namespace Naming

/-- The parts of a URI, most general first. -/
def uriParts (uri : String) : List (List Char) :=
  match (Url.parse? none uri).filter Url.isHttp with
  | some url =>
    -- The host is read from its end, so that the most general part comes first.
    let host := (url.host.map Url.Host.render).getD ""
    (Text.segments '.' host.toList).reverse ++ Text.segments '/' url.path.toList
  | none => Text.segments '/' uri.toList

/-- A part with an underscore for each character that no word takes. -/
def wordOf (part : List Char) : List Char := part.map fun c => if Text.isWord c then c else '_'

/-- The segments of a namespace's path. -/
def packageSegments (uri : String) : List (List Char) :=
  ((uriParts uri).filter fun part => !part.isEmpty).map wordOf

/-- The path of a namespace. -/
def package (naming : Naming) (uri : String) : String :=
  match naming.style with
  | .flat => ""
  | .hierarchical => Text.join naming.separator ((packageSegments uri).map String.ofList)

/-- The name of a type behind the path of its namespace, if that has one. -/
def qualifiedName (naming : Naming) (key : ExpandedName) : String :=
  let package := naming.package key.uri
  if package.isEmpty then key.name else package ++ naming.separator ++ key.name

end Naming

end WsdlTypes
