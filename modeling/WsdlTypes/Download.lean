import WsdlTypes.Url.Basic
/-!
# Downloads

A document of the web is downloaded, or it is not for a cause. A request that cannot be put
together is never sent. What becomes of one that is sent lies outside: the web is a table of
answers (`Web`), and where it has none there is no network, so that no way leads to the host.
-/

namespace WsdlTypes

/-- Why a document was not downloaded. -/
inductive DownloadError where
  /-- The scheme is none of the web. -/
  | schemeNotAllowed
  /-- The URL is none that can be asked for. -/
  | invalidUri
  /-- The name of the host has no address. -/
  | unresolvedHost
  /-- No network leads to the host. -/
  | unreachableNetwork
  /-- There is no address of the same kind to send the request from. -/
  | unassignedAddress
  /-- Something else went wrong, in the words of who was asked. -/
  | other (message : String) (causes : List String)
deriving DecidableEq, Repr

namespace DownloadError

/-- Whether the request was put together. -/
def isSent : DownloadError → Bool
  | schemeNotAllowed | invalidUri => false
  | unresolvedHost | unreachableNetwork | unassignedAddress | other .. => true

/-- What lies behind the error, from the outermost cause to the innermost. -/
def causes : DownloadError → List String
  | schemeNotAllowed => ["URL scheme is not allowed"]
  | invalidUri => ["Parsed Url is not a valid Uri"]
  | unresolvedHost =>
    ["client error (Connect)", "dns error",
      "failed to lookup address information: Temporary failure in name resolution"]
  | unreachableNetwork =>
    ["client error (Connect)", "tcp connect error", "Network is unreachable (os error 101)"]
  | unassignedAddress =>
    ["client error (Connect)", "tcp connect error",
      "Cannot assign requested address (os error 99)"]
  | other _ causes => causes

/-- The error in words, of a request for a URL. -/
def message (e : DownloadError) (requested : Url) : String :=
  match e with
  | other message _ => message
  | _ =>
    (if e.isSent then "error sending request" else "builder error")
      ++ " for url (" ++ requested.render ++ ")"

end DownloadError

/-- What the web has to a request: the text of a document, or nothing that could be one. -/
inductive Answer where
  | document (text : String)
  | failure (cause : DownloadError)
deriving DecidableEq, Repr

/-- What the web answers, by URLs in writing. -/
abbrev Web := List (String × Answer)

namespace Url

/-- The text that percent signs and digits stand for, if their octets are one. -/
def decodedText? (text : String) : Option (List Char) := Text.decode? (percentDecode text.toList)

/-- The URL that is asked for. User and password go another way, if they are text; a
password that is none is dropped. -/
def requested (url : Url) : Url :=
  let hasPassword := !url.password.isEmpty && (decodedText? url.password).isSome
  match decodedText? url.user with
  | some user => if user.isEmpty && !hasPassword then url else url.withoutUser
  | none => url

/-- The longest URL that can be asked for. -/
def maxRequested : Nat := 65534

/-- Whether a URL can be asked for: it is not too long, and in its host no quotation mark,
grave accent or brace stands. -/
def canBeRequested (url : Url) : Bool :=
  let host := (url.host.map Host.render).getD ""
  url.render.utf8ByteSize ≤ maxRequested
    && !host.toList.any ['"', '\x60', '\x7b', '\x7d'].contains

/-- What the way to a host ends in. -/
def Host.connectError : Host → DownloadError
  | domain name => if name = "localhost" then .unreachableNetwork else .unresolvedHost
  | ipv6 pieces =>
    -- An address of four octets may be written as one of eight pieces.
    if pieces.take 6 = [0, 0, 0, 0, 0, 0xffff] then .unreachableNetwork else .unassignedAddress
  | ipv4 _ | verbatim _ => .unreachableNetwork

/-- Why a document at a URL is not downloaded where there is no network. -/
def downloadError (url : Url) : DownloadError :=
  if !url.isHttp then .schemeNotAllowed
  else if !url.requested.canBeRequested then .invalidUri
  else (url.host.map Host.connectError).getD .unreachableNetwork

/-- Whether a URL in writing is one of the web. -/
def isOfWeb (written : String) : Bool :=
  "http://".toList.isPrefixOf written.toList || "https://".toList.isPrefixOf written.toList

/-- The text of the document at a URL. Others than those of the web are not asked for. -/
def download (web : Web) (url : Url) : Except DownloadError String :=
  match if isOfWeb url.render then web.lookup url.render else none with
  | some (.document text) => .ok text
  | some (.failure cause) => .error cause
  | none => .error url.downloadError

/-- A text that is downloaded is what the web has at a URL of its own. -/
theorem download_eq_ok_iff {web : Web} {url : Url} {text : String} :
    url.download web = .ok text ↔
      isOfWeb url.render = true ∧ web.lookup url.render = some (.document text) := by
  unfold download
  cases isOfWeb url.render with
  | false => simp
  | true =>
    simp only [if_true, true_and]
    generalize web.lookup url.render = answer?
    rcases answer? with _ | ⟨document⟩ | ⟨cause⟩ <;> simp

end Url

end WsdlTypes
