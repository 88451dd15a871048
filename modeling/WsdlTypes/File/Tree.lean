import WsdlTypes.Download
import WsdlTypes.File.Path
/-!
# Trees of files

A finite tree of directories and files without links, and the directory in it that
relative paths start from. Their names are texts. A file is what reading it as text gives.
Looking a path up goes through its parts one by one; every part but the last must name a
directory, also where the next one leads up again. Beside the files stands what the web
answers.

The path of an entry from the root is its canonical path. Two paths name the same file
when they are looked up to the same canonical path. To work a canonical path out, though,
each entry on the way is looked up once more by its path from the root, and no path may be
too long for that (`fits`). So deep in a tree there are files that can be read and whose
canonical path cannot be worked out (`canonicalize`).
-/

namespace WsdlTypes.File

/-- Why a path cannot be read. -/
inductive Error where
  | notFound
  | notDirectory
  | isDirectory
  | nameTooLong
  | notText
  | nulInPath
deriving DecidableEq, Repr

/-- The cause in words. -/
def Error.message : Error → String
  | notFound => "No such file or directory (os error 2)"
  | notDirectory => "Not a directory (os error 20)"
  | isDirectory => "Is a directory (os error 21)"
  | nameTooLong => "File name too long (os error 36)"
  | notText => "stream did not contain valid UTF-8"
  | nulInPath => "file name contained an unexpected NUL byte"

/-- A directory, or a file with its text; a file whose octets are no text has none. -/
inductive Entry where
  | directory
  | file (text : Option String)
deriving DecidableEq, Repr

/-- A tree of files: its entries by canonical path, and the working directory. -/
structure Tree where
  entries : List (List String × Entry)
  working : List String
  /-- What the web answers. -/
  web : Web := []
deriving DecidableEq, Repr

namespace Tree

/-- What there is at a canonical path; the root is always there. -/
def entry? (tree : Tree) (path : List String) : Option Entry :=
  if path = [] then some .directory else tree.entries.lookup path

/-- The longest name of an entry, in octets. -/
def maxName : Nat := 255

/-- The longest path that a file is opened by, in octets. -/
def maxPath : Nat := 4095

/-- The canonical path that parts lead to from a directory. -/
def locate (tree : Tree) (here : List String) : List String → Except Error (List String)
  | [] => .ok here
  | part :: rest =>
    -- Even a dot is looked up in a directory.
    if tree.entry? here ≠ some .directory then .error .notDirectory
    else if part = "" ∨ part = "." then tree.locate here rest
    else if part = ".." then tree.locate here.dropLast rest
    else if maxName < part.utf8ByteSize then .error .nameTooLong
    else if (tree.entry? (here ++ [part])).isNone then .error .notFound
    else tree.locate (here ++ [part]) rest

/-- Where a path starts: at the root, or at the working directory. -/
def start (tree : Tree) (path : String) : List String :=
  if isAbsolute path then [] else tree.working

/-- The canonical path of what a path leads to. -/
def resolve (tree : Tree) (path : String) : Except Error (List String) :=
  if path.toList.contains '\x00' then .error .nulInPath
  else if path.isEmpty then .error .notFound
  else tree.locate (tree.start path) (parts path)

/-- The canonical path of the file that is opened by a path. -/
def opened (tree : Tree) (path : String) : Except Error (List String) :=
  if !path.toList.contains '\x00' && maxPath < path.utf8ByteSize then .error .nameTooLong
  else tree.resolve path

/-- The text of the file at a path. -/
def read (tree : Tree) (path : String) : Except Error String := do
  match tree.entry? (← tree.opened path) with
  | some (.file (some text)) => .ok text
  | some (.file none) => .error .notText
  | some .directory => .error .isDirectory
  | none => .error .notFound

/-- A canonical path in writing. -/
def render (path : List String) : String := "/" ++ Text.join "/" path

/-- Whether what stands in front of some parts has to be a directory: nothing but slashes and
dots follows, or the first step leads up. -/
def leadsOn (rest : List String) : Bool :=
  match rest.dropWhile fun part => part == "" || part == "." with
  | [] => !rest.isEmpty
  | part :: _ => part == ".."

/-- Whether each entry that parts come by on their way from a directory can be looked up by its
path from the root. What has to be a directory is looked up with a slash at the end. -/
def fits (here : List String) : List String → Bool
  | [] => true
  | part :: rest =>
    if part = "" ∨ part = "." then fits here rest
    else if part = ".." then fits here.dropLast rest
    else
      let size := (render (here ++ [part])).utf8ByteSize
      (if leadsOn rest then size + 1 else size) ≤ maxPath && fits (here ++ [part]) rest

/-- The canonical path of what a path leads to, as far as it can be worked out. -/
def canonicalize (tree : Tree) (path : String) : Except Error (List String) :=
  match tree.resolve path with
  | .ok canonical =>
    if fits (tree.start path) (parts path) then .ok canonical else .error .nameTooLong
  | .error cause => .error cause

/-- What a path is known by: its canonical path, or the path itself where this cannot be worked
out. -/
def identity (tree : Tree) (path : String) : String :=
  match tree.canonicalize path with
  | .ok canonical => render canonical
  | .error _ => path

/-- Why a path that is no text leads nowhere: nothing is named by its first part that is none, if
one gets there. -/
def strayError (tree : Tree) (octets : List Nat) : Error :=
  let path := String.ofList (octets.map Char.ofNat)
  let decoded (part : String) : Option String :=
    (Text.decode? (part.toList.map Char.toNat)).map String.ofList
  if octets.contains 0 then .nulInPath
  else if maxPath < octets.length then .nameTooLong
  else
    let front := (parts path).takeWhile fun part => (decoded part).isSome
    match tree.locate (tree.start path) (front.filterMap decoded) with
    | .error cause => cause
    | .ok here =>
      if tree.entry? here ≠ some .directory then .notDirectory
      else if ((parts path).drop front.length).head?.any (maxName < ·.length) then .nameTooLong
      else .notFound

/-- The tree with an entry put at a canonical path. -/
def put (tree : Tree) (path : List String) (entry : Entry) : Tree :=
  { tree with entries := (path, entry) :: tree.entries.filter fun e => e.1 ≠ path }

/-- The tree with the directories that parts lead to from a directory, and where they lead;
nothing leads on from a file. -/
def makeDirectories (tree : Tree) (here : List String) :
    List String → Tree × Option (List String)
  | [] => (tree, some here)
  | part :: rest =>
    if part = "" ∨ part = "." then tree.makeDirectories here rest
    else if part = ".." then tree.makeDirectories here.dropLast rest
    else if maxName < part.utf8ByteSize then (tree, none)
    else
      let next := here ++ [part]
      match tree.entry? next with
      | some .directory => tree.makeDirectories next rest
      | some (.file _) => (tree, none)
      | none => (tree.put next .directory).makeDirectories next rest

/-- The tree that holds one directory, the working directory. -/
def ofWorking (working : List String) : Tree :=
  (makeDirectories { entries := [], working } [] working).1

/-- The tree with a file in a directory; a directory is not made a file. -/
def putFile (tree : Tree) (directory : List String) (name : String) (text : Option String) :
    Tree :=
  if name = "." ∨ name = ".." ∨ maxName < name.utf8ByteSize then tree
  else if tree.entry? (directory ++ [name]) = some .directory then tree
  else tree.put (directory ++ [name]) (.file text)

/-- The tree with a file at a path, and the directories that lead to it. A path that ends in
a slash makes a directory. What cannot be made is left out. -/
def write (tree : Tree) (path : String) (text : Option String) : Tree :=
  let parts := parts path
  let (tree, directory) := tree.makeDirectories (tree.start path) parts.dropLast
  match directory, parts.getLast? with
  | some directory, some name =>
    if name.isEmpty then tree else tree.putFile directory name text
  | _, _ => tree

/-- The tree without the file at a path; a directory stays. -/
def remove (tree : Tree) (path : String) : Tree :=
  match tree.opened path with
  | .ok canonical =>
    match tree.entry? canonical with
    | some (.file _) => { tree with entries := tree.entries.filter fun e => e.1 ≠ canonical }
    | _ => tree
  | .error _ => tree

/-- What there is at a canonical path is the root or one of the entries. -/
theorem mem_of_entry?_eq_some {tree : Tree} {path : List String} {entry : Entry}
    (h : tree.entry? path = some entry) (hne : entry ≠ .directory) :
    (path, entry) ∈ tree.entries := by
  unfold entry? at h
  split at h
  · exact absurd (Option.some.inj h).symm hne
  · obtain ⟨l₁, l₂, heq, -⟩ := List.lookup_eq_some_iff.1 h
    simp [heq]

/-- The file that is opened by a path is the one that the path is looked up to. -/
theorem resolve_eq_of_opened {tree : Tree} {path : String} {canonical : List String}
    (h : tree.opened path = .ok canonical) : tree.resolve path = .ok canonical := by
  unfold opened at h
  split at h
  · cases h
  · exact h

/-- What can be opened has a path that is not too long. -/
theorem size_le_of_opened {tree : Tree} {path : String} {canonical : List String}
    (h : tree.opened path = .ok canonical) : path.utf8ByteSize ≤ maxPath := by
  unfold opened at h
  split at h
  · cases h
  · rename_i hnot
    have hnul : path.toList.contains '\x00' = false := by
      unfold resolve at h
      split at h
      · cases h
      · simpa using ‹¬ path.toList.contains '\x00' = true›
    simp only [hnul, Bool.not_false, Bool.true_and, decide_eq_true_eq] at hnot
    exact Nat.le_of_not_lt hnot

/-- A canonical path is worked out where a path can be looked up and fits. -/
theorem canonicalize_eq_ok_iff {tree : Tree} {path : String} {canonical : List String} :
    tree.canonicalize path = .ok canonical ↔
      tree.resolve path = .ok canonical ∧ fits (tree.start path) (parts path) = true := by
  unfold canonicalize
  cases tree.resolve path with
  | error cause => simp
  | ok found => cases fits (tree.start path) (parts path) <;> simp

/-- What can be opened is known by its canonical path, or by a path that is not too long. -/
theorem identity_eq_render_or_short {tree : Tree} {path : String} {canonical : List String}
    (h : tree.opened path = .ok canonical) :
    tree.identity path = render canonical ∨ (tree.identity path).utf8ByteSize ≤ maxPath := by
  unfold identity
  cases hcanonical : tree.canonicalize path with
  | ok found =>
    have hfound := (canonicalize_eq_ok_iff.1 hcanonical).1
    rw [resolve_eq_of_opened h] at hfound
    exact Or.inl (congrArg render (Except.ok.inj hfound).symm)
  | error cause => exact Or.inr (size_le_of_opened h)

/-- A path that can be read opens a file of the tree. -/
theorem read_eq_ok_iff {tree : Tree} {path text : String} :
    tree.read path = .ok text ↔
      ∃ canonical, tree.opened path = .ok canonical ∧
        tree.entry? canonical = some (.file (some text)) := by
  unfold read
  cases h : tree.opened path with
  | error e => simp [bind, Except.bind]
  | ok canonical =>
    simp only [bind, Except.bind]
    split <;> simp_all

end Tree

/-- What octets are when they are read as text. -/
def textOf (octets : ByteArray) : Option String := String.fromUTF8? octets

end WsdlTypes.File
