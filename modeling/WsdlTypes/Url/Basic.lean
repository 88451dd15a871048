import WsdlTypes.Url.Host
/-!
# Uniform resource locators

The parts of a URL and how they are written. A path that starts with a slash is a row of
segments; the path of a URL that has neither a host nor such a path is opaque, and nothing
is relative to it.
-/

namespace WsdlTypes

/-- A URL. A `file` URL without a host and one with an empty host are the same. -/
structure Url where
  scheme : String
  user : String := ""
  password : String := ""
  host : Option Url.Host := none
  port : Option Nat := none
  path : String
  query : Option String := none
  fragment : Option String := none
deriving DecidableEq, Repr

namespace Url

/-- The schemes whose URLs always have a host, and the port that each uses by default. -/
def hostSchemes : List (String × Nat) :=
  [("http", 80), ("https", 443), ("ws", 80), ("wss", 443), ("ftp", 21)]

/-- Whether a scheme takes backslashes for slashes and empty paths for the root. -/
def isSpecial (scheme : String) : Bool := scheme == "file" || (hostSchemes.lookup scheme).isSome

/-- Whether the URL is fetched by the hypertext protocol. -/
def isHttp (url : Url) : Bool := url.scheme == "http" || url.scheme == "https"

/-- User and password, with what separates them from the host. -/
def renderUser (url : Url) : String :=
  let password := if url.password.isEmpty then "" else ":" ++ url.password
  if url.user.isEmpty && url.password.isEmpty then "" else url.user ++ password ++ "@"

/-- The host with the slashes before it and the port behind it. -/
def renderAuthority (url : Url) : String :=
  match url.host with
  | some host =>
    "//" ++ url.renderUser ++ host.render
      ++ match url.port with
        | some port => ":" ++ toString port
        | none => ""
  | none => if url.scheme == "file" then "//" else ""

/-- Whether the path is not one of segments. -/
def isOpaque (url : Url) : Bool := url.renderAuthority.isEmpty && !url.path.startsWith "/"

/-- The path as a URL writes it: without an authority, two slashes at its front would be
taken for those of one. -/
def renderPath (url : Url) : String :=
  if url.renderAuthority.isEmpty && url.path.startsWith "//" then "/." ++ url.path
  else url.path

/-- The URL in writing. -/
def render (url : Url) : String :=
  url.scheme ++ ":" ++ url.renderAuthority ++ url.renderPath
    ++ (match url.query with
      | some query => "?" ++ query
      | none => "")
    ++ match url.fragment with
      | some fragment => "#" ++ fragment
      | none => ""

/-- The URL without user and password. -/
def withoutUser (url : Url) : Url := { url with user := "", password := "" }

end Url

end WsdlTypes
