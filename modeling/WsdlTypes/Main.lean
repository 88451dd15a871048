import WsdlTypes.CommandLine
/-!
# The program

Runs the command line on the files of the machine. What is resolved is worked out on a tree
of files that holds what was looked at so far; files that turn out to be needed are added to
the tree until none is missing.
-/

namespace WsdlTypes.Program

/-- The paths of files that a command line looks at in a tree. -/
def consulted (words : List String) (tree : File.Tree) : List String :=
  match CommandLine.read words with
  | .request request =>
    let documents :=
      match request.config tree with
      | .ok config => ((Session.new config).resolve tree request.input).1.library.visited
      | .error _ => []
    (request.setting? .config).toList ++ documents
  | _ => []

/-- Adds what there is at the parts of a path to a tree, going down from a directory. -/
def look (tree : File.Tree) (here : List String) : List String → IO File.Tree
  | [] => return tree
  | part :: rest => do
    if part = "" ∨ part = "." then look tree here rest
    else if part = ".." then look tree here.dropLast rest
    else
      let next := here ++ [part]
      -- Canonical paths are absolute, so the directory in front does not count.
      let file := (← IO.currentDir) / File.Tree.render next
      if ← file.isDir then look (tree.put next .directory) next rest
      else if ← file.pathExists then
        return tree.put next (.file (File.textOf (← IO.FS.readBinFile file)))
      else return tree

/-- Adds what there is at a path to a tree. -/
def lookAt (tree : File.Tree) (path : String) : IO File.Tree :=
  if path.toList.contains '\x00' then return tree
  else look tree (tree.start path) (File.parts path)

/-- A tree with all files that a command line needs. -/
partial def gather (words : List String) (tree : File.Tree) (looked : List String) :
    IO File.Tree := do
  let missing := (consulted words tree).filter fun path => path ∉ looked
  if missing.isEmpty then return tree
  gather words (← missing.foldlM lookAt tree) (missing ++ looked)

end WsdlTypes.Program

/-- Does what the words of the command line ask for. -/
def main (words : List String) : IO UInt32 := do
  let working := (← IO.currentDir).toString
  let start ← WsdlTypes.Program.lookAt { entries := [], working := [] } working
  let start := { start with working := (WsdlTypes.File.parts working).filter (· ≠ "") }
  let tree ← WsdlTypes.Program.gather words start []
  let output := WsdlTypes.CommandLine.run words tree
  (← IO.getStdout).putStr output.out
  (← IO.getStderr).putStr output.err
  return UInt32.ofNat output.status
