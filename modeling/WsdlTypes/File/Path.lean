import WsdlTypes.Text.Split
import WsdlTypes.Text.Utf8
/-!
# Paths of files

A path is a text whose parts stand between slashes. Taking the directory of a path and
joining a path onto a directory work on the text alone: apart from slashes and dots at
the end nothing is tidied up, and no file needs to exist.

What a system takes for a path need not be a text. Octets that are none are a path, too
(`Path`); its parts are found in the same way, and only its writing is inexact.
-/

namespace WsdlTypes.File

/-- Whether a path starts at the root. -/
def isAbsolute (path : String) : Bool := path.toList.head? == some '/'

/-- The parts of a path, an empty one included for every slash too many. -/
def parts (path : String) : List String :=
  (Text.segments '/' path.toList).map String.ofList

/-- Parts without the empty ones and the lone dots at the end. -/
def dropVoidEnd (parts : List String) : List String :=
  (parts.reverse.dropWhile fun part => part == "" || part == ".").reverse

/-- The path of the directory that a path lies in, empty for a path of one part and for the
root. A slash or a dot at the end of a path does not count as a part. -/
def parent (path : String) : String :=
  let (start, rest) :=
    match path.toList with
    | '/' :: rest => ("/", rest)
    | ['.'] => (".", [])
    | '.' :: '/' :: rest => (".", '/' :: rest)
    | cs => ("", cs)
  match dropVoidEnd (parts (String.ofList rest)) with
  | [] => ""
  | part :: more => start ++ Text.join "/" (dropVoidEnd (part :: more).dropLast)

/-- A path as it is seen from a directory. -/
def joinPath (directory path : String) : String :=
  if isAbsolute path || directory.isEmpty then path
  else if directory.endsWith "/" then directory ++ path
  else directory ++ "/" ++ path

/-- An absolute path is the same from everywhere. -/
theorem joinPath_of_isAbsolute {directory path : String} (h : isAbsolute path = true) :
    joinPath directory path = path := by
  simp [joinPath, h]

/-- A path as a system has it: a text, or octets that are none. -/
inductive Path where
  | text (path : String)
  | octets (path : List Nat) (undecodable : Text.decode? path = none)
deriving DecidableEq, Repr

instance : Coe String Path := ⟨.text⟩

namespace Path

/-- The path of some octets. -/
def ofOctets (octets : List Nat) : Path :=
  match h : Text.decode? octets with
  | some cs => .text (String.ofList cs)
  | none => .octets octets h

/-- The path with each octet as a character of its own. Slashes and dots are the same there. -/
def unfolded : Path → String
  | text path => String.ofList ((path.toList.flatMap Text.octets).map Char.ofNat)
  | octets path _ => String.ofList (path.map Char.ofNat)

/-- The path in writing. What is no text is replaced. -/
def display : Path → String
  | text path => path
  | octets path _ => String.ofList (Text.decodeOctets path)

/-- The path of octets is written with replacements for those that form no character. -/
theorem display_ofOctets (bytes : List Nat) :
    (ofOctets bytes).display = String.ofList (Text.decodeOctets bytes) := by
  unfold ofOctets
  split
  · rename_i cs h
    simp only [Text.decode?] at h
    split at h
    · rw [← Option.some.inj h]
      rfl
    · cases h
  · rfl

/-- A path as it is seen from the directory that another one lies in. -/
def join (base : Path) (reference : String) : Path :=
  match base with
  | text path => .text (joinPath (parent path) reference)
  | octets .. =>
    let joined := joinPath (parent base.unfolded) (unfolded reference)
    .ofOctets (joined.toList.map Char.toNat)

end Path

end WsdlTypes.File
