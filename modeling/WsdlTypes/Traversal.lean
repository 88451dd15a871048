import WsdlTypes.DocumentReference
import WsdlTypes.Library
import WsdlTypes.Problem
import WsdlTypes.Text.Count
/-!
# Following references between documents

Documents are brought in depth first. A document is entered when it comes into the library;
its references are followed in order, each to the end of all that it leads to; then the
document is left. The order in which documents are left is the one in which their
declarations are walked later, so what a document refers to comes before it.

The documents that were entered and not left are kept in a stack. A traversal ends
(`Traversal.run`) because nothing is entered twice under what it is known by: every step follows
one of the finitely many references, or leaves a document (`Traversal.measure_step_lt`). What a
document is known by is its canonical path or URL, of which there are finitely many. A file that
is too deep in the tree is known by the path in a reference to it, but no long path can be
opened, and there are only so many short ones.
-/

namespace WsdlTypes

/-- A document that was entered, with those of its references that were not followed. -/
structure Frame where
  document : Document
  pending : List DocumentReference

namespace Frame

/-- A document that was just entered. -/
def enter (document : Document) : Frame := ⟨document, DocumentReference.ofRoot document.root⟩

/-- How many steps it takes to leave the document, apart from what its references lead to. -/
def size (frame : Frame) : Nat := frame.pending.length + 1

end Frame

/-- Follows a reference of a document. -/
def Library.follow (library : Library) (tree : File.Tree) (document : Document)
    (reference : DocumentReference) : Library × Except LoadError LoadOutcome :=
  match document.location.join reference.location with
  | .ok location => library.load tree location
  | .error cause => (library, .error cause)

/-- How far the references were followed. -/
structure Traversal where
  library : Library
  /-- The namespaces that documents take over from those that include them. -/
  inherited : List (Nat × String) := []
  findings : List Finding := []
  /-- The documents that were left, in order. -/
  order : List Nat := []
  /-- The documents that were entered and not left, the last one first. -/
  stack : List Frame := []

namespace Traversal

/-- A document taken into a traversal that a reference led to. -/
def enter (t : Traversal) (document : Document) (reference : DocumentReference) : Traversal :=
  { t with
    inherited :=
      match reference.includedInto with
      | some target => (document.id, target) :: t.inherited
      | none => t.inherited
    stack := Frame.enter document :: t.stack }

/-- What came of following a reference of a document, taken into a traversal. -/
def take (t : Traversal) (document : Document) (reference : DocumentReference) :
    Library × Except LoadError LoadOutcome → Traversal
  | (library, .ok (.loaded found)) => { t with library }.enter found reference
  | (library, .ok .alreadyLoaded) => { t with library }
  | (library, .error cause) =>
    { t with
      library
      findings := t.findings ++
        [{ problem := .unloaded cause
           file := document.location.display
           line := reference.line }] }

/-- A reference of a document followed. -/
def follow (t : Traversal) (tree : File.Tree) (document : Document)
    (reference : DocumentReference) : Traversal :=
  t.take document reference (t.library.follow tree document reference)

/-- The next step where a document stands on top of the stack: its next reference is followed,
or it is left. -/
def step (t : Traversal) (tree : File.Tree) (frame : Frame) (outer : List Frame) : Traversal :=
  match frame.pending with
  | [] => { t with order := t.order ++ [frame.document.id], stack := outer }
  | reference :: pending =>
    { t with stack := { frame with pending } :: outer }.follow tree frame.document reference

/-- Numbers added up. -/
def total (sizes : List Nat) : Nat := sizes.foldr (· + ·) 0

@[simp] theorem total_nil : total [] = 0 := rfl

@[simp] theorem total_cons (n : Nat) (rest : List Nat) : total (n :: rest) = n + total rest := rfl

/-- How many steps a text may take, were it a document. -/
def textSize (doctypes : Bool) (text : String) : Nat :=
  match Xml.Element.parse doctypes text with
  | .ok root => (DocumentReference.ofRoot root).length + 1
  | .error _ => 0

/-- The texts that there are, in files and on the web, under their canonical paths and URLs. -/
def sources (tree : File.Tree) : List (String × String) :=
  (tree.entries.filterMap fun (path, entry) =>
    match entry with
    | .file (some text) => some (File.Tree.render path, text)
    | _ => none)
  ++ tree.web.filterMap fun (written, answer) =>
    match answer with
    | .document text => some (written, text)
    | .failure _ => none

/-- How many steps those texts may take that were not tried. -/
def untriedOf (sources : List (String × String)) (doctypes : Bool) (visited : List String) : Nat :=
  total <| sources.map fun source => if source.1 ∈ visited then 0 else textSize doctypes source.2

/-- How many paths may still be tried of those that can be opened. -/
def spellings (visited : List String) : Nat :=
  Text.bound File.Tree.maxPath - (Text.shortOnes File.Tree.maxPath visited).length

/-- How many steps may still be taken in documents that were not tried: in one for each canonical
path and each URL, and in one for each path. -/
def untried (tree : File.Tree) (doctypes : Bool) (visited : List String) : Nat :=
  untriedOf (sources tree) doctypes visited
    + spellings visited * untriedOf (sources tree) doctypes []

/-- A bound on the steps that are left. -/
def measure (tree : File.Tree) (t : Traversal) : Nat :=
  untried tree t.library.doctypes t.library.visited + total (t.stack.map Frame.size)

section

variable {tree : File.Tree} {doctypes : Bool} {visited visited' : List String}
variable {sources : List (String × String)} {source : String × String}

theorem untriedOf_le_of_subset (h : visited ⊆ visited') :
    untriedOf sources doctypes visited' ≤ untriedOf sources doctypes visited := by
  simp only [untriedOf]
  induction sources with
  | nil => simp
  | cons first rest ih =>
    simp only [List.map_cons, total_cons]
    refine Nat.add_le_add ?_ ih
    by_cases hv : first.1 ∈ visited
    · simp [hv, h hv]
    · simp only [hv, if_false]
      split <;> omega

theorem spellings_le_of_subset (h : visited ⊆ visited') :
    spellings visited' ≤ spellings visited := by
  have hle : (Text.shortOnes File.Tree.maxPath visited).length
      ≤ (Text.shortOnes File.Tree.maxPath visited').length :=
    Text.length_shortOnes_le_of_subset h
  rw [spellings, spellings]
  omega

theorem untried_le_of_subset (h : visited ⊆ visited') :
    untried tree doctypes visited' ≤ untried tree doctypes visited :=
  Nat.add_le_add (untriedOf_le_of_subset h)
    (Nat.mul_le_mul_right _ (spellings_le_of_subset h))

/-- Trying a text leaves that much less to try as it may take. -/
theorem untriedOf_cons (hmem : source ∈ sources) (hnew : source.1 ∉ visited) :
    untriedOf sources doctypes (source.1 :: visited) + textSize doctypes source.2
      ≤ untriedOf sources doctypes visited := by
  induction sources with
  | nil => cases hmem
  | cons first rest ih =>
    rcases List.mem_cons.1 hmem with rfl | hmem
    -- The first text is the one tried: it counted as a whole and counts no more.
    · have hle : untriedOf rest doctypes (source.1 :: visited) ≤ untriedOf rest doctypes visited :=
        untriedOf_le_of_subset (List.subset_cons_self _ _)
      simp only [untriedOf, List.map_cons, total_cons] at hle ⊢
      rw [if_pos List.mem_cons_self, if_neg hnew]
      omega
    -- The text lies further back, and the first one counts no more than before.
    · have hrest := ih hmem
      have hfirst : (if first.1 ∈ source.1 :: visited then 0 else textSize doctypes first.2) ≤
          if first.1 ∈ visited then 0 else textSize doctypes first.2 := by
        by_cases hv : first.1 ∈ visited
        · simp [hv]
        · simp only [hv, if_false]
          split <;> omega
      simp only [untriedOf, List.map_cons, total_cons] at hrest ⊢
      omega

/-- A text takes no more than all of them together. -/
theorem textSize_le (hmem : source ∈ sources) :
    textSize doctypes source.2 ≤ untriedOf sources doctypes [] := by
  have hle : untriedOf sources doctypes [source.1] + textSize doctypes source.2
      ≤ untriedOf sources doctypes [] := untriedOf_cons hmem List.not_mem_nil
  omega

/-- Trying a path that is not too long leaves one less. -/
theorem spellings_cons {path : String} (hsize : path.utf8ByteSize ≤ File.Tree.maxPath)
    (hnew : path ∉ visited) : spellings (path :: visited) + 1 = spellings visited := by
  have hle : (Text.shortOnes File.Tree.maxPath (path :: visited)).length
      ≤ Text.bound File.Tree.maxPath := Text.length_shortOnes_le
  rw [Text.shortOnes_cons hsize hnew, List.length_cons] at hle
  rw [spellings, spellings, Text.shortOnes_cons hsize hnew, List.length_cons]
  omega

/-- Trying a text under its canonical path or its URL leaves that much less to try. -/
theorem untried_cons_source (hmem : source ∈ Traversal.sources tree) (hnew : source.1 ∉ visited) :
    untried tree doctypes (source.1 :: visited) + textSize doctypes source.2
      ≤ untried tree doctypes visited := by
  have hsources : untriedOf (Traversal.sources tree) doctypes (source.1 :: visited)
      + textSize doctypes source.2 ≤ untriedOf (Traversal.sources tree) doctypes visited :=
    untriedOf_cons hmem hnew
  have hspellings : spellings (source.1 :: visited) * untriedOf (Traversal.sources tree) doctypes []
      ≤ spellings visited * untriedOf (Traversal.sources tree) doctypes [] :=
    Nat.mul_le_mul_right _ (spellings_le_of_subset (List.subset_cons_self _ _))
  simp only [untried]
  omega

/-- And so does trying it under a path that is not too long. -/
theorem untried_cons_path {path : String} (hmem : source ∈ Traversal.sources tree)
    (hsize : path.utf8ByteSize ≤ File.Tree.maxPath) (hnew : path ∉ visited) :
    untried tree doctypes (path :: visited) + textSize doctypes source.2
      ≤ untried tree doctypes visited := by
  have hsources : untriedOf (Traversal.sources tree) doctypes (path :: visited)
      ≤ untriedOf (Traversal.sources tree) doctypes visited :=
    untriedOf_le_of_subset (List.subset_cons_self _ _)
  have htext : textSize doctypes source.2 ≤ untriedOf (Traversal.sources tree) doctypes [] :=
    textSize_le hmem
  have hspellings := spellings_cons hsize hnew
  simp only [untried, ← hspellings, Nat.add_mul, Nat.one_mul]
  omega

end

/-- What is fetched is one of the texts that there are, and it is fetched under its canonical path
or URL, or under a path that is not too long. -/
theorem exists_source_of_fetch {tree : File.Tree} {location : Location} {text : String}
    (h : location.fetch tree = .ok text) :
    ∃ source ∈ sources tree, source.2 = text ∧
      (location.identity tree = source.1 ∨
        (location.identity tree).utf8ByteSize ≤ File.Tree.maxPath) := by
  rcases Location.fetch_eq_ok_iff.1 h with ⟨path, rfl, hread⟩ | ⟨address, rfl, hdownload⟩
  · obtain ⟨canonical, hopened, hentry⟩ := File.Tree.read_eq_ok_iff.1 hread
    have hmem := File.Tree.mem_of_entry?_eq_some hentry (by simp)
    exact ⟨(File.Tree.render canonical, text),
      List.mem_append_left _ (List.mem_filterMap.2 ⟨_, hmem, rfl⟩), rfl,
      File.Tree.identity_eq_render_or_short hopened⟩
  · obtain ⟨-, hlookup⟩ := Url.download_eq_ok_iff.1 hdownload
    obtain ⟨l₁, l₂, heq, -⟩ := List.lookup_eq_some_iff.1 hlookup
    have hmem : (address.render, Answer.document text) ∈ tree.web := by simp [heq]
    exact ⟨(address.render, text),
      List.mem_append_right _ (List.mem_filterMap.2 ⟨_, hmem, rfl⟩), rfl, Or.inl rfl⟩

/-- A document that comes in takes its size from what is left to try. -/
theorem untried_load {library library' : Library} {tree : File.Tree} {location : Location}
    {document : Document}
    (h : library.load tree location = (library', .ok (.loaded document))) :
    untried tree library'.doctypes library'.visited + (Frame.enter document).size
      ≤ untried tree library.doctypes library.visited := by
  obtain ⟨hnew, hopen, hvisited, -⟩ := Library.load_eq_loaded h
  have hdoctypes : library'.doctypes = library.doctypes := by
    have : (library.load tree location).1.doctypes = library.doctypes := Library.doctypes_load
    rwa [h] at this
  obtain ⟨hfetch, hparse, -, -⟩ := Library.open?_eq_ok_iff.1 hopen
  obtain ⟨source, hmem, htext, hknown⟩ := exists_source_of_fetch hfetch
  have hsize : textSize library.doctypes source.2 = (Frame.enter document).size := by
    simp [textSize, htext, hparse, Frame.enter, Frame.size]
  rw [hdoctypes, hvisited, ← hsize]
  rcases hknown with hidentity | hshort
  · rw [hidentity] at hnew ⊢
    exact untried_cons_source hmem hnew
  · exact untried_cons_path hmem hshort hnew

/-- Whatever comes of trying a location, no more is left to try. -/
theorem untried_load_le {library : Library} {tree : File.Tree} {location : Location} :
    untried tree (library.load tree location).1.doctypes (library.load tree location).1.visited
      ≤ untried tree library.doctypes library.visited := by
  rw [Library.doctypes_load]
  exact untried_le_of_subset Library.visited_subset_load

/-- Following a reference takes no more steps than were left to try. -/
theorem measure_follow_le (t : Traversal) (tree : File.Tree) (document : Document)
    (reference : DocumentReference) :
    (t.follow tree document reference).measure tree ≤ t.measure tree := by
  unfold follow Library.follow
  cases document.location.join reference.location with
  | error cause => simp [measure, take]
  | ok location =>
    have hle : untried tree (t.library.load tree location).1.doctypes
        (t.library.load tree location).1.visited
          ≤ untried tree t.library.doctypes t.library.visited := untried_load_le
    rcases hload : t.library.load tree location with ⟨library, outcome⟩
    rw [hload] at hle
    dsimp only at hle
    simp only [hload]
    match outcome with
    | .ok (.loaded found) =>
      have := untried_load hload
      simp only [take, measure, enter, List.map_cons, total_cons]
      omega
    | .ok .alreadyLoaded =>
      simp only [take, measure]
      omega
    | .error cause =>
      simp only [take, measure]
      omega

/-- **Every step leaves fewer steps to do.** -/
theorem measure_step_lt {t : Traversal} {tree : File.Tree} {frame : Frame}
    {outer : List Frame} (h : t.stack = frame :: outer) :
    (t.step tree frame outer).measure tree < t.measure tree := by
  unfold step
  split
  · simp only [measure, h, List.map_cons, total_cons, Frame.size]
    omega
  · rename_i reference pending hpending
    refine Nat.lt_of_le_of_lt (measure_follow_le ..) ?_
    simp only [measure, h, List.map_cons, total_cons, Frame.size, hpending, List.length_cons]
    omega

/-- A traversal taken to its end, where every document is left. -/
def run (tree : File.Tree) (t : Traversal) : Traversal :=
  match _h : t.stack with
  | [] => t
  | frame :: outer => run tree (t.step tree frame outer)
termination_by t.measure tree
decreasing_by exact measure_step_lt _h

/-- A traversal that has entered one document. -/
def ofRoot (library : Library) (inherited : List (Nat × String)) (root : Document) : Traversal :=
  { library, inherited, stack := [Frame.enter root] }

end Traversal

end WsdlTypes
