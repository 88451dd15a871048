import WsdlTypes.Download
import WsdlTypes.File.Tree
import WsdlTypes.Text.Quoted
import WsdlTypes.Url.Parse
import WsdlTypes.Xml.Error
/-!
# Locations of documents

A document lives in a file or behind a URL. A text that holds `://` is taken for a URL, of
which the schemes `file`, `http` and `https` are known; every other text is a path. A `file`
URL is the only way to a path that is no text.
Documents name each other relative to where they live themselves (`Location.join`).
-/

namespace WsdlTypes

/-- Why a document could not be brought in. -/
inductive LoadError where
  | invalidLocation (source : String)
  | unreadable (location : String) (cause : File.Error)
  | unreachable (address : Url) (cause : DownloadError)
  | malformed (location : String) (cause : Xml.Error)
deriving DecidableEq, Repr

namespace LoadError

/-- What lies behind the error, from the outermost cause to the innermost. -/
def causes : LoadError → List String
  | invalidLocation _ => []
  | unreadable _ cause => [cause.message]
  | unreachable address cause => cause.message address.requested :: cause.causes
  | malformed _ cause => [cause.message]

/-- The error in words. -/
def message : LoadError → String
  | invalidLocation source => "invalid document location " ++ Text.quoted source
  | unreadable location cause => "failed to read " ++ location ++ ": " ++ cause.message
  | unreachable address cause =>
    "failed to fetch " ++ address.render ++ ": " ++ cause.message address.requested
  | malformed location cause => "failed to parse " ++ location ++ ": " ++ cause.message

end LoadError

/-- Where a document lives. -/
inductive Location where
  | file (path : File.Path)
  | url (address : Url)
deriving DecidableEq, Repr

/-- The path of the file that a `file` URL means; one with a host means none. A drive alone
is a directory. -/
def Url.filePath? (url : Url) : Option File.Path :=
  if url.host.isSome || !url.path.startsWith "/" then none
  else
    let octets := percentDecode url.path.toList
    let isDriveEnd : Bool :=
      match octets.reverse with
      | mark :: letter :: _ :: _ =>
        (mark == 0x3a || mark == 0x7c) && (Char.ofNat letter).isAlpha
      | _ => false
    let octets := if isDriveEnd then octets ++ [0x2f] else octets
    some (.ofOctets octets)

namespace Location

/-- Whether a text is taken for a URL. -/
def looksLikeUrl (source : String) : Bool := Text.occursIn [':', '/', '/'] source.toList

/-- The location that a text names. -/
def parse (source : String) : Except LoadError Location :=
  if !looksLikeUrl source then .ok (.file source)
  else
    match Url.parse? none source with
    | none => .error (.invalidLocation source)
    | some address =>
      if address.scheme = "file" then
        match address.filePath? with
        | some path => .ok (.file path)
        | none => .error (.invalidLocation source)
      else if address.isHttp then .ok (.url address)
      else .error (.invalidLocation source)

/-- The location that a reference names in a document at a location. -/
def join (base : Location) (reference : String) : Except LoadError Location :=
  if looksLikeUrl reference then parse reference
  else
    match base with
    | file path => .ok (.file (path.join reference))
    | url address =>
      -- A URL is what it is in writing.
      match Url.parse? (Url.parse? none address.render) reference with
      | some joined => .ok (.url joined)
      | none => .error (.invalidLocation reference)

/-- The location in writing. -/
def display : Location → String
  | file path => path.display
  | url address => address.render

/-- What the location is known by: two spellings of a file that is there are one, as long as its
canonical path can be worked out from both. -/
def identity (tree : File.Tree) : Location → String
  | file (.text path) => tree.identity path
  | file path => path.display
  | url address => address.render

/-- The text of the document at a location. -/
def fetch (tree : File.Tree) (location : Location) : Except LoadError String :=
  match location with
  | file (.text path) =>
    match tree.read path with
    | .ok text => .ok text
    | .error cause => .error (.unreadable path cause)
  -- The names of all files are texts.
  | file (.octets path undecodable) =>
    let written := (File.Path.octets path undecodable).display
    .error (.unreadable written (tree.strayError path))
  | url address =>
    match address.download tree.web with
    | .ok text => .ok text
    | .error cause => .error (.unreachable address cause)

/-- A text is fetched from the file of a path, or it is what the web has at a URL. -/
theorem fetch_eq_ok_iff {tree : File.Tree} {location : Location} {text : String} :
    location.fetch tree = .ok text ↔
      (∃ path : String, location = file path ∧ tree.read path = .ok text) ∨
        ∃ address, location = url address ∧ address.download tree.web = .ok text := by
  match location with
  | file (.text path) =>
    simp only [fetch]
    split <;> simp_all
  | file (.octets path undecodable) => simp [fetch]
  | url address =>
    simp only [fetch]
    split <;> simp_all

/-- A reference that looks like a URL means the same from everywhere. -/
theorem join_of_looksLikeUrl {base : Location} {reference : String}
    (h : looksLikeUrl reference = true) : base.join reference = parse reference := by
  simp [join, h]

end Location

end WsdlTypes
