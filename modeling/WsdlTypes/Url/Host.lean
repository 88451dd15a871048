import WsdlTypes.Url.Address
import WsdlTypes.Url.Domain
/-!
# Hosts

The host of a URL is a domain name in ASCII, an address, or, where the scheme does not say,
a text taken as it is.
-/

namespace WsdlTypes.Url

/-- A host. -/
inductive Host where
  | domain (name : String)
  | ipv4 (address : Nat)
  | ipv6 (pieces : List Nat)
  | verbatim (text : String)
deriving DecidableEq, Repr

/-- The host as a URL writes it. -/
def Host.render : Host → String
  | domain name => name
  | ipv4 address => writeFour address
  | ipv6 pieces => "[" ++ writeEight pieces ++ "]"
  | verbatim text => text

/-- What no host takes. -/
def outsideHost (c : Char) : Bool :=
  ['\x00', '\t', '\n', '\r', ' ', '#', '/', ':', '<', '>', '?', '@', '[', '\\', ']', '^',
    '|'].contains c

/-- What no domain name takes. -/
def outsideDomain (c : Char) : Bool := outsideHost c || isControl c || c == '%'

/-- The address between square brackets. -/
def bracketed? (cs : List Char) : Option Host :=
  if cs.getLast? = some ']' then (addressOfEight? (cs.drop 1).dropLast).map .ipv6 else none

/-- The host of a special scheme that a text names. -/
def Host.ofSpecial? (cs : List Char) : Option Host :=
  if cs.head? = some '[' then bracketed? cs
  else do
    let name ← asciiName? (Text.decodeOctets (percentDecode cs))
    if name.isEmpty || name.any outsideDomain then none
    if endsInNumber name then (addressOfFour? name).map .ipv4
    else some (.domain (String.ofList name))

/-- The host of any other scheme that a text names. -/
def Host.ofOther? (cs : List Char) : Option Host :=
  if cs.head? = some '[' then bracketed? cs
  else if cs.any outsideHost then none
  else some (.verbatim (String.ofList (percentEncode isControl cs)))

end WsdlTypes.Url
