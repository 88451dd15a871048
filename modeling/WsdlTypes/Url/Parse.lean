import WsdlTypes.Url.Path
/-!
# Reading URLs

A text is a URL by itself or against a base: it names a scheme, or it borrows what it does
not name from the base. The first `#` starts the fragment and the first `?` before it the
query; what is left is the host and the path. Dots in the path are followed, characters
that do not fit are percent-encoded, and a default port is left out, so equal URLs are
mostly written alike.
-/

namespace WsdlTypes.Url

/-- A text without a first separator and what follows it, and what follows it. -/
def splitAt (separator : Char) (cs : List Char) : List Char × Option (List Char) :=
  match Text.splitOnce? separator cs with
  | some (before, after) => (before, some after)
  | none => (cs, none)

/-- A text from the character that counts behind as many others that do. -/
def dropCounted : Nat → List Char → List Char
  | 0, cs => cs.dropWhile (!counts ·)
  | _, [] => []
  | n + 1, c :: rest => if counts c then dropCounted n rest else dropCounted (n + 1) rest

/-- What follows the scheme, taken apart. -/
structure Parts where
  /-- Host and path. -/
  main : List Char
  query : Option (List Char)
  fragment : Option (List Char)

namespace Parts

/-- Takes apart what follows the scheme. -/
def ofChars (cs : List Char) : Parts :=
  let (front, fragment) := splitAt '#' cs
  let (main, query) := splitAt '?' front
  { main, query, fragment }

/-- The characters of host and path that count. -/
def counted (parts : Parts) : List Char := parts.main.filter counts

/-- Whether there is nothing behind the host and the path. -/
def endsHere (parts : Parts) : Bool := parts.query.isNone && parts.fragment.isNone

end Parts

/-- The URL with the query and the fragment that a text gives. -/
def withParts (url : Url) (parts : Parts) : Url :=
  let encode outside cs := String.ofList (percentEncode outside (cs.filter counts))
  { url with
    query := parts.query.map (encode (outsideQuery (isSpecial url.scheme)))
    fragment := parts.fragment.map (encode outsideFragment) }

/-- The scheme in front of a colon, in lower case, and what follows. -/
def scheme? (cs : List Char) : Option (String × List Char) :=
  let isPart (c : Char) := c.isAlphanum || c == '+' || c == '-' || c == '.' || !counts c
  match (cs.takeWhile isPart).filter counts, cs.dropWhile isPart with
  | first :: more, ':' :: rest =>
    if first.isAlpha then some (String.ofList ((first :: more).map Char.toLower), rest) else none
  | _, _ => none

/-- Host and port, at the first colon outside square brackets. -/
def splitPort (inside : Bool) : List Char → List Char × Option (List Char)
  | [] => ([], none)
  | ':' :: rest =>
    if inside then
      let (host, port) := splitPort inside rest
      (':' :: host, port)
    else ([], some rest)
  | c :: rest =>
    let (host, port) := splitPort (c == '[' || (inside && c != ']')) rest
    (c :: host, port)

/-- The port that digits name, none where there are none or it is the default one. -/
def port? (scheme : String) (cs : List Char) : Option (Option Nat) :=
  if cs.isEmpty then some none
  else
    (digits? 10 cs).bind fun n =>
      if 65535 < n then none
      else some (if hostSchemes.lookup scheme = some n then none else some n)

/-- User and password, as far as they are there, and the rest. -/
def splitUser (cs : List Char) : Option (List Char) × List Char :=
  if cs.contains '@' then
    let reversed := cs.reverse
    (some ((reversed.dropWhile (· ≠ '@')).drop 1).reverse, (reversed.takeWhile (· ≠ '@')).reverse)
  else (none, cs)

/-- The path behind a host: the root of a special scheme, or what follows a slash. Where a
scheme lays down nothing, the path may be empty, and a backslash starts its first segment. -/
def pathBehindHost (scheme : String) (cs : List Char) : String :=
  let path :=
    if isSpecial scheme then pathFrom scheme ['/'] (cs.drop 1)
    else if cs.head?.all (· == '/') then pathFrom scheme [] cs
    else pathFrom scheme ['/'] cs
  path.1

/-- The URL of a scheme and what follows two slashes. -/
def behindSlashes? (scheme : String) (parts : Parts) : Option Url := do
  let authority := parts.counted.takeWhile fun c => !isSlash scheme c
  let rest := dropCounted authority.length parts.main
  let (user, address) := splitUser authority
  let (name, password) := splitAt ':' (user.getD [])
  let password := password.getD []
  let (hostText, portText) := splitPort false address
  let digits := (portText.getD []).takeWhile Char.isDigit
  -- A backslash ends the digits of the port also where it is no slash.
  let behindPort := (portText.getD []).drop digits.length
  if behindPort.head?.any (· ≠ '\\') then none
  -- Neither a user nor a port goes without a host, nor an empty user in front of a path.
  let isAlone := name.isEmpty && password.isEmpty && portText.isNone
    && (user ≠ some [] || (rest.isEmpty && parts.endsHere))
  if hostText.isEmpty && !isAlone then none
  let host ← if isSpecial scheme then Host.ofSpecial? hostText else Host.ofOther? hostText
  let port ← port? scheme digits
  let encode cs := String.ofList (percentEncode outsideUser cs)
  let path := pathBehindHost scheme (behindPort ++ rest)
  let url : Url := { scheme, user := encode name, password := encode password, host, port, path }
  return url.withParts parts

/-- The `file` URL of what follows two slashes. -/
def fileBehindSlashes? (parts : Parts) : Option Url := do
  let hostText := parts.counted.takeWhile fun c => !isSlash "file" c
  let rest := dropCounted hostText.length parts.main
  if isDrive hostText then
    return { scheme := "file", path := (pathFrom "file" ['/'] parts.main).1 : Url }.withParts parts
  let host ← if hostText.isEmpty then some none else (Host.ofSpecial? hostText).map some
  if host = none ∨ host = some (.domain "localhost") then
    return { scheme := "file", path := (pathFrom "file" ['/'] rest).1 : Url }.withParts parts
  let (path, hasDrive) := pathFrom "file" ['/'] (rest.drop 1)
  -- A drive is one of this machine, so a host in front of it does not count.
  return { scheme := "file", host := if hasDrive then none else host, path : Url }.withParts parts

/-- What a text gives against a base when it names neither a host nor a path. -/
def sameDocument (base : Url) (parts : Parts) : Url :=
  let url := base.withParts parts
  if parts.query.isSome then url else { url with query := base.query }

/-- The `file` URL of a text behind the scheme, against a base of the scheme if there is
one. -/
def fileRelative? (base : Option Url) (parts : Parts) : Option Url :=
  let cs := parts.counted
  let slashes := (cs.takeWhile (isSlash "file")).length
  let url := base.getD { scheme := "file", path := "/" }
  let fromRoot : Url := { scheme := "file", path := (pathFrom "file" ['/'] parts.main).1 }
  if 2 ≤ slashes then fileBehindSlashes? { parts with main := dropCounted 2 parts.main }
  else if slashes = 1 then
    let drive := (url.path.toList.drop 1).takeWhile (· ≠ '/')
    let namesDrive := startsWithDrive (cs.drop 1)
    -- A path from the root stays on the drive of the base, or else on its host.
    let staysOnDrive := !namesDrive && isDrive drive && drive.getLast? == some ':'
    let start := if staysOnDrive then drive.reverse ++ ['/'] else []
    let host := if namesDrive || staysOnDrive then none else url.host
    some ({ scheme := "file", host, path := (pathFrom "file" start parts.main).1 : Url
      }.withParts parts)
  else if cs.isEmpty && base.isSome then some (sameDocument url parts)
  else if base.isNone || startsWithDrive cs then some (fromRoot.withParts parts)
  else
    let start := popped "file" url.path.toList.reverse
    some ({ url with path := (pathFrom "file" start parts.main).1 }.withParts parts)

/-- The URL of a text that names no scheme, against a base of any scheme but `file`. -/
def relative? (base : Url) (parts : Parts) : Option Url :=
  let scheme := base.scheme
  let cs := parts.counted
  let slashes := (cs.takeWhile fun c => c == '/' || c == '\\').length
  let onBase (start rest : List Char) : Url :=
    { base with path := (pathFrom scheme start rest).1 }.withParts parts
  if 2 ≤ slashes then
    -- Two slashes are all that may stand before the host; a run with backslashes is taken
    -- whole.
    let run := if cs.take 2 = ['/', '/'] then 2 else slashes
    behindSlashes? scheme { parts with main := dropCounted run parts.main }
  else if slashes = 1 then some (onBase ['/'] (dropCounted 1 parts.main))
  else if cs.isEmpty then some (sameDocument base parts)
  else
    let start := popped scheme base.path.toList.reverse
    some (onBase (if start.isEmpty then ['/'] else start) parts.main)

/-- The URL of a scheme and what follows its colon. -/
def behindScheme? (base : Option Url) (scheme : String) (parts : Parts) : Option Url :=
  let sameScheme := base.filter fun url => url.scheme == scheme
  let cs := parts.counted
  if scheme == "file" then fileRelative? sameScheme parts
  else if isSpecial scheme then
    let slashes := (cs.takeWhile (isSlash scheme)).length
    let absolute? := behindSlashes? scheme { parts with main := dropCounted slashes parts.main }
    match sameScheme with
    | some base => if slashes < 2 then relative? base parts else absolute?
    | none => absolute?
  else if cs.take 2 = ['/', '/'] then
    behindSlashes? scheme { parts with main := dropCounted 2 parts.main }
  else if cs.head? = some '/' then
    some ({ scheme, path := (pathFrom scheme [] parts.main).1 : Url }.withParts parts)
  else
    let path := String.ofList (percentEncode isControl cs)
    some ({ scheme, path : Url }.withParts parts)

/-- The URL that a text gives against a base, or by itself where there is none. White space
and controls around it do not count, nor do line ends and tabs inside it. -/
def parse? (base : Option Url) (text : String) : Option Url :=
  let isOuter (c : Char) : Bool := c.toNat ≤ 0x20
  let cs := ((text.toList.dropWhile isOuter).reverse.dropWhile isOuter).reverse
  match scheme? cs with
  | some (scheme, rest) => behindScheme? base scheme (.ofChars rest)
  | none =>
    base.bind fun base =>
      let parts := Parts.ofChars cs
      if base.isOpaque then
        -- Only the fragment is not part of what is opaque.
        if cs.head? = some '#' then some (sameDocument base parts) else none
      else if base.scheme == "file" then fileRelative? (some base) parts
      else relative? base parts

end WsdlTypes.Url
