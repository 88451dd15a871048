import Mathlib.Algebra.Ring.Nat
import Mathlib.Data.List.Infix
import WsdlTypes.File.Tree
import WsdlTypes.Proofs.File.Path
/-!
# Canonical paths

What a path is looked up to is the path of an entry: its parts are names, and every path on the
way there is that of a directory (`Tree.Holds`). So a canonical path leads to itself and is
written in one way (`resolve_render`), and two spellings of one file are two paths that lead to
one place (`resolve_of_place_eq`). What is joined onto the directory of a file is found from the
directory of its canonical path, whatever the spelling (`resolve_joinPath`).

A path is known by the place it leads to, unless this is too deep for its canonical path to be
worked out. Paths that are known by the same lead to one place in any case
(`place_eq_of_identity_eq`), and where the tree is shallow every path is known by its place
(`IsShallow.identity_eq_place`).

A spelling may be as long as one likes, as a detour leads to the same file (`resolve_detour`), but
not every one can be opened (`opened_detour`). And a file may lie so deep that it is known by each
spelling that it can be opened by (`deepFile_spelling`).
-/

namespace WsdlTypes.File

/-- What an entry can be called. -/
structure IsName (part : String) : Prop where
  notVoid : isVoid part = false
  notUp : part ≠ ".."
  short : part.utf8ByteSize ≤ Tree.maxName
  slash : '/' ∉ part.toList
  nul : '\x00' ∉ part.toList

namespace Tree

variable {tree : Tree} {here path canonical : List String} {ps rest : List String}

/-- A path leads to an entry: it consists of names, and all paths on the way are those of
directories. -/
structure Holds (tree : Tree) (path : List String) : Prop where
  names : ∀ name ∈ path, IsName name
  inside : ∀ way, way <+: path → way ≠ path → tree.entry? way = some .directory
  found : (tree.entry? path).isSome

theorem holds_nil : tree.Holds [] where
  names := nofun
  inside _ hway hne := absurd (List.prefix_nil.1 hway) hne
  found := rfl

/-- A directory above an entry is one. -/
theorem Holds.dropLast (h : tree.Holds path) :
    tree.Holds path.dropLast ∧ tree.entry? path.dropLast = some .directory := by
  have hdirectory : tree.entry? path.dropLast = some .directory := by
    by_cases hpath : path = []
    · rw [hpath]
      rfl
    · refine h.inside _ (List.dropLast_prefix path) fun heq => ?_
      have hlength := congrArg List.length heq
      rw [List.length_dropLast] at hlength
      have hpos := List.length_pos_iff.2 hpath
      omega
  refine ⟨⟨fun name hname => h.names name ((List.dropLast_prefix path).subset hname),
    fun way hway hne => ?_, by rw [hdirectory]; rfl⟩, hdirectory⟩
  refine h.inside way (hway.trans (List.dropLast_prefix path)) fun heq => hne ?_
  -- A way that is as long as the whole path is the whole of what is left.
  have hlength := hway.length_le
  rw [heq, List.length_dropLast] at hlength
  have hpath : path = [] := by
    rw [← List.length_eq_zero_iff]
    omega
  rw [heq, hpath]
  rfl

/-- An entry of a directory. -/
theorem Holds.append {name : String} (h : tree.Holds path) (hname : IsName name)
    (hdirectory : tree.entry? path = some .directory)
    (hfound : (tree.entry? (path ++ [name])).isSome) : tree.Holds (path ++ [name]) where
  names other hother := by
    rcases List.mem_append.1 hother with hother | hother
    · exact h.names other hother
    · rwa [List.mem_singleton.1 hother]
  inside way hway hne := by
    rcases List.prefix_concat_iff.1 hway with heq | hway
    · exact absurd heq hne
    · by_cases heq : way = path
      · rwa [heq]
      · exact h.inside way hway heq
  found := hfound

/-! ## Looking parts up -/

theorem locate_append (tree : Tree) (here ps rest : List String) :
    tree.locate here (ps ++ rest)
      = tree.locate here ps >>= fun there => tree.locate there rest := by
  induction ps generalizing here with
  | nil => rfl
  | cons part ps ih =>
    simp only [List.cons_append, locate]
    split
    · rfl
    · split
      · exact ih here
      · split
        · exact ih _
        · split
          · rfl
          · split
            · rfl
            · exact ih _

/-- A part that leads nowhere is looked up in a directory. -/
theorem locate_cons_of_isVoid {part : String} (h : isVoid part = true) :
    tree.locate here (part :: rest)
      = if tree.entry? here ≠ some .directory then .error .notDirectory
        else tree.locate here rest := by
  have hvoid : part = "" ∨ part = "." := by simpa [isVoid] using h
  simp only [locate, if_pos hvoid]

/-- Parts that lead nowhere do not count where others come behind. -/
theorem locate_voids_append {voids : List String} (h : ∀ part ∈ voids, isVoid part = true)
    (hrest : rest ≠ []) : tree.locate here (voids ++ rest) = tree.locate here rest := by
  induction voids with
  | nil => rfl
  | cons part voids ih =>
    rw [List.cons_append, locate_cons_of_isVoid (h part List.mem_cons_self),
      ih fun other hother => h other (List.mem_cons_of_mem _ hother)]
    split
    · rename_i hnot
      cases rest with
      | nil => exact absurd rfl hrest
      | cons first others => simp only [locate, if_pos hnot]
    · rfl

theorem locate_dropVoidEnd_append (ps : List String) (hrest : rest ≠ []) :
    tree.locate here (dropVoidEnd ps ++ rest) = tree.locate here (ps ++ rest) := by
  obtain ⟨voids, hps, hvoids⟩ := exists_append_dropVoidEnd ps
  conv_rhs => rw [hps, List.append_assoc, locate_append]
  rw [locate_append]
  refine bind_congr fun there => ?_
  rw [locate_voids_append hvoids hrest]

/-- **What is found is an entry.** -/
theorem Holds.locate (h : tree.Holds here)
    (hps : ∀ part ∈ ps, '/' ∉ part.toList ∧ '\x00' ∉ part.toList)
    (hlocate : tree.locate here ps = .ok canonical) : tree.Holds canonical := by
  induction ps generalizing here with
  | nil =>
    rw [← Except.ok.inj hlocate]
    exact h
  | cons part rest ih =>
    obtain ⟨hslash, hnul⟩ := hps part List.mem_cons_self
    have hrest : ∀ part ∈ rest, '/' ∉ part.toList ∧ '\x00' ∉ part.toList :=
      fun other hother => hps other (List.mem_cons_of_mem _ hother)
    simp only [Tree.locate] at hlocate
    split at hlocate
    · cases hlocate
    · rename_i hdirectory
      split at hlocate
      · exact ih h hrest hlocate
      · rename_i hvoid
        split at hlocate
        · exact ih h.dropLast.1 hrest hlocate
        · rename_i hup
          split at hlocate
          · cases hlocate
          · rename_i hlong
            split at hlocate
            · cases hlocate
            · rename_i hfound
              have hname : IsName part :=
                ⟨by simpa [isVoid] using hvoid, hup, Nat.le_of_not_lt hlong, hslash, hnul⟩
              refine ih (h.append hname (by simpa using hdirectory) ?_) hrest hlocate
              rwa [Bool.not_eq_true, Option.isNone_eq_false_iff] at hfound

/-- The path of an entry leads there from the root. -/
theorem Holds.locate_self (h : tree.Holds (path ++ rest)) :
    tree.locate path rest = .ok (path ++ rest) := by
  induction rest generalizing path with
  | nil => rw [List.append_nil]; rfl
  | cons name rest ih =>
    have hname : IsName name := h.names name (List.mem_append_right _ List.mem_cons_self)
    have hvoid : ¬ (name = "" ∨ name = ".") := by
      have hnot := hname.notVoid
      simpa [isVoid] using hnot
    have hdirectory : tree.entry? path = some .directory :=
      h.inside path (List.prefix_append _ _) fun heq => by
        simpa using congrArg List.length heq
    have hwhole : path ++ name :: rest = (path ++ [name]) ++ rest := by simp
    rw [hwhole] at h ⊢
    have hfound : (tree.entry? (path ++ [name])).isNone = false := by
      by_cases hrest : rest = []
      · rw [hrest, List.append_nil] at h
        simpa using h.found
      · rw [h.inside (path ++ [name]) (List.prefix_append _ _) fun heq => hrest (by
          simpa using congrArg List.length heq)]
        rfl
    have hshort := hname.short
    simp only [Tree.locate, hdirectory, ne_eq, not_true_eq_false, if_false, if_neg hvoid,
      if_neg hname.notUp, if_neg (Nat.not_lt.2 hshort), hfound, Bool.false_eq_true]
    exact ih h

/-! ## Looking paths up -/

variable {path path' : String}

theorem resolve_eq_ok_iff :
    tree.resolve path = .ok canonical ↔
      '\x00' ∉ path.toList ∧ path ≠ "" ∧
        tree.locate (tree.start path) (parts path) = .ok canonical := by
  unfold resolve
  by_cases hnul : '\x00' ∈ path.toList
  · simp [hnul]
  · by_cases hempty : path = ""
    · simp [hempty]
    · simp [hnul, hempty]

/-- The working directory is in the tree: its own path leads to it. -/
def WorksInside (tree : Tree) : Prop := tree.resolve (render tree.working) = .ok tree.working

instance (tree : Tree) : Decidable tree.WorksInside :=
  inferInstanceAs (Decidable (tree.resolve (render tree.working) = .ok tree.working))

/-- What the parts of a path without a null character are written with. -/
theorem notMem_of_mem_parts_of_notMem (hnul : '\x00' ∉ path.toList) {part : String}
    (hpart : part ∈ parts path) : '/' ∉ part.toList ∧ '\x00' ∉ part.toList :=
  ⟨notMem_of_mem_parts hpart, fun hmem => hnul (mem_toList_of_mem_parts hpart hmem)⟩

theorem isAbsolute_render (canonical : List String) : isAbsolute (render canonical) = true :=
  isAbsolute_iff.2 ⟨(Text.join "/" canonical).toList, by simp [render]⟩

/-- The working directory is an entry. -/
theorem WorksInside.holds (h : tree.WorksInside) : tree.Holds tree.working := by
  obtain ⟨hnul, -, hlocate⟩ := resolve_eq_ok_iff.1 h
  rw [start, isAbsolute_render, if_pos rfl] at hlocate
  exact holds_nil.locate (fun part hpart => notMem_of_mem_parts_of_notMem hnul hpart) hlocate

/-- **A path that is found is that of an entry.** -/
theorem WorksInside.holds_of_resolve (h : tree.WorksInside)
    (hresolve : tree.resolve path = .ok canonical) : tree.Holds canonical := by
  obtain ⟨hnul, -, hlocate⟩ := resolve_eq_ok_iff.1 hresolve
  have hstart : tree.Holds (tree.start path) := by
    unfold start
    split
    · exact holds_nil
    · exact h.holds
  exact hstart.locate (fun part hpart => notMem_of_mem_parts_of_notMem hnul hpart) hlocate

/-- **A canonical path leads to itself.** -/
theorem Holds.resolve_render (h : tree.Holds canonical) :
    tree.resolve (render canonical) = .ok canonical := by
  have hnul : '\x00' ∉ (render canonical).toList := by
    rw [render, String.toList_append, List.mem_append, not_or]
    refine ⟨by decide, fun hmem => ?_⟩
    rcases mem_toList_join hmem with hslash | ⟨part, hpart, hnul⟩
    · cases hslash
    · exact (h.names part hpart).nul hnul
  have hself : tree.locate [] canonical = .ok canonical := by
    have hlocate := Holds.locate_self (List.nil_append canonical ▸ h)
    rwa [List.nil_append] at hlocate
  have hroot : tree.entry? [] = some .directory := rfl
  refine resolve_eq_ok_iff.2 ⟨hnul, by simp [render, ← String.toList_inj], ?_⟩
  rw [start, isAbsolute_render, if_pos rfl, render, parts_slash_append,
    locate_cons_of_isVoid rfl, if_neg (by simp [hroot])]
  by_cases hempty : canonical = []
  · rw [hempty]
    rfl
  · rwa [parts_join hempty fun part hpart => (h.names part hpart).slash]

/-- A tree in whose root one works is worked in. -/
theorem worksInside_of_working_eq_nil (h : tree.working = []) : tree.WorksInside := by
  rw [WorksInside, h]
  exact holds_nil.resolve_render

/-- A canonical path is written in one way. -/
theorem Holds.render_inj {canonical' : List String} (h : tree.Holds canonical)
    (h' : tree.Holds canonical') (heq : render canonical = render canonical') :
    canonical = canonical' := by
  have hresolve := h.resolve_render
  rw [heq, h'.resolve_render] at hresolve
  exact (Except.ok.inj hresolve).symm

/-! ## Places -/

/-- Where a path leads to, in writing: the canonical path, or the path itself where it leads
nowhere. -/
def place (tree : Tree) (path : String) : String :=
  match tree.resolve path with
  | .ok canonical => render canonical
  | .error _ => path

theorem place_of_resolve (h : tree.resolve path = .ok canonical) :
    tree.place path = render canonical := by
  simp only [place, h]

theorem place_of_resolve_error {cause : Error} (h : tree.resolve path = .error cause) :
    tree.place path = path := by
  simp only [place, h]

/-- A path leads nowhere. -/
def LeadsNowhere (tree : Tree) (path : String) : Prop :=
  ∀ canonical, tree.resolve path ≠ .ok canonical

instance (tree : Tree) (path : String) : Decidable (tree.LeadsNowhere path) :=
  match h : tree.resolve path with
  | .ok canonical => isFalse fun hnowhere => hnowhere canonical h
  | .error _ => isTrue fun _ hfound => nomatch h.symm.trans hfound

/-- **Two spellings of one file** are looked up to one canonical path. -/
theorem WorksInside.resolve_of_place_eq (hwork : tree.WorksInside)
    (h : tree.resolve path = .ok canonical) (heq : tree.place path' = tree.place path) :
    tree.resolve path' = .ok canonical := by
  have hholds := hwork.holds_of_resolve h
  rw [place_of_resolve h] at heq
  cases h' : tree.resolve path' with
  | ok canonical' =>
    rw [place_of_resolve h'] at heq
    rw [hholds.render_inj (hwork.holds_of_resolve h') heq.symm]
  | error cause =>
    -- A path that is not found cannot be written like one that is.
    rw [place_of_resolve_error h'] at heq
    rw [heq, hholds.resolve_render] at h'
    cases h'

theorem identity_of_canonicalize (h : tree.canonicalize path = .ok canonical) :
    tree.identity path = render canonical := by
  simp only [identity, h]

/-- A path is known by the place it leads to, or by itself. -/
theorem identity_eq_place_or_self (tree : Tree) (path : String) :
    tree.identity path = tree.place path ∨ tree.identity path = path := by
  cases h : tree.canonicalize path with
  | ok canonical =>
    left
    rw [identity_of_canonicalize h, place_of_resolve (canonicalize_eq_ok_iff.1 h).1]
  | error cause =>
    right
    simp only [identity, h]

/-- What leads nowhere is known by itself. -/
theorem identity_of_resolve_error {cause : Error} (h : tree.resolve path = .error cause) :
    tree.identity path = path := by
  simp only [identity, canonicalize, h]

/-- The place of what a path is known by is that of the path. -/
theorem WorksInside.place_identity (hwork : tree.WorksInside) (path : String) :
    tree.place (tree.identity path) = tree.place path := by
  rcases identity_eq_place_or_self tree path with heq | heq
  · rw [heq]
    cases h : tree.resolve path with
    | ok canonical =>
      rw [place_of_resolve h, place_of_resolve (hwork.holds_of_resolve h).resolve_render]
    | error cause => rw [place_of_resolve_error h, place_of_resolve_error h]
  · rw [heq]

/-- **What is known by the same leads to the same place.** -/
theorem WorksInside.place_eq_of_identity_eq (hwork : tree.WorksInside)
    (heq : tree.identity path' = tree.identity path) : tree.place path' = tree.place path := by
  rw [← hwork.place_identity path', heq, hwork.place_identity path]

/-- No canonical path of the tree is too long to be looked up, be it as that of a directory. -/
def IsShallow (tree : Tree) : Prop :=
  ∀ entry ∈ tree.entries, (render entry.1).utf8ByteSize < maxPath

instance (tree : Tree) : Decidable tree.IsShallow :=
  inferInstanceAs (Decidable (∀ entry ∈ tree.entries, _))

/-- What is there in a shallow tree fits. -/
theorem IsShallow.fits (h : tree.IsShallow) (hlocate : tree.locate here ps = .ok canonical) :
    fits here ps = true := by
  induction ps generalizing here with
  | nil => rfl
  | cons part rest ih =>
    simp only [locate] at hlocate
    split at hlocate
    · cases hlocate
    · rw [Tree.fits]
      split at hlocate
      · rename_i hvoid
        rw [if_pos hvoid]
        exact ih hlocate
      · rename_i hvoid
        rw [if_neg hvoid]
        split at hlocate
        · rename_i hup
          rw [if_pos hup]
          exact ih hlocate
        · rename_i hup
          rw [if_neg hup]
          split at hlocate
          · cases hlocate
          · split at hlocate
            · cases hlocate
            · rename_i hfound
              have hsize : (render (here ++ [part])).utf8ByteSize < maxPath := by
                rw [Bool.not_eq_true, Option.isNone_eq_false_iff] at hfound
                obtain ⟨entry, hentry⟩ := Option.isSome_iff_exists.1 hfound
                unfold entry? at hentry
                rw [if_neg (by simp)] at hentry
                obtain ⟨l₁, l₂, heq, -⟩ := List.lookup_eq_some_iff.1 hentry
                exact h (_, entry) (by rw [heq]; exact List.mem_append_right _ List.mem_cons_self)
              simp only [Bool.and_eq_true, decide_eq_true_eq]
              refine ⟨?_, ih hlocate⟩
              split <;> omega

/-- **In a shallow tree a path is known by its place.** -/
theorem IsShallow.identity_eq_place (h : tree.IsShallow) (path : String) :
    tree.identity path = tree.place path := by
  cases hresolve : tree.resolve path with
  | ok canonical =>
    have hfits := h.fits (resolve_eq_ok_iff.1 hresolve).2.2
    rw [identity_of_canonicalize (canonicalize_eq_ok_iff.2 ⟨hresolve, hfits⟩),
      place_of_resolve hresolve]
  | error cause => rw [identity_of_resolve_error hresolve, place_of_resolve_error hresolve]

/-! ## From the directory of a file -/

section

variable {text : Option String} (hwork : tree.WorksInside)
variable (h : tree.resolve path = .ok canonical) (hfile : tree.entry? canonical = some (.file text))

include hwork h hfile

/-- The last part of the path of a file is the name of the file, and the others lead to its
directory. -/
theorem WorksInside.exists_parts_of_file :
    ∃ front name, parts path = front ++ [name] ∧ isVoid name = false ∧
      tree.locate (tree.start path) front = .ok canonical.dropLast := by
  obtain ⟨hnul, -, hlocate⟩ := resolve_eq_ok_iff.1 h
  have hparts : parts path = (parts path).dropLast ++ [(parts path).getLast (parts_ne_nil path)] :=
    (List.dropLast_append_getLast _).symm
  generalize (parts path).dropLast = front at hparts
  generalize (parts path).getLast (parts_ne_nil path) = name at hparts
  refine ⟨front, name, hparts, ?_⟩
  rw [hparts, locate_append] at hlocate
  cases hfront : tree.locate (tree.start path) front with
  | error cause =>
    rw [hfront] at hlocate
    cases hlocate
  | ok directory =>
    rw [hfront] at hlocate
    have hname : tree.locate directory [name] = .ok canonical := hlocate
    have hnot : ∀ canonical', tree.entry? canonical' = some .directory →
        canonical' ≠ canonical := by
      rintro _ hdirectory rfl
      rw [hfile] at hdirectory
      cases hdirectory
    have hholds : tree.Holds directory := by
      have hstart : tree.Holds (tree.start path) := by
        unfold start
        split
        · exact holds_nil
        · exact hwork.holds
      exact hstart.locate (fun part hpart => notMem_of_mem_parts_of_notMem hnul
        (hparts ▸ List.mem_append_left _ hpart)) hfront
    simp only [locate] at hname
    split at hname
    · cases hname
    · rename_i hdirectory
      split at hname
      · exact absurd (Except.ok.inj hname) (hnot _ (by simpa using hdirectory))
      · rename_i hvoid
        split at hname
        · exact absurd (Except.ok.inj hname) (hnot _ hholds.dropLast.2)
        · split at hname
          · cases hname
          · split at hname
            · cases hname
            · rw [← Except.ok.inj hname, List.dropLast_concat]
              exact ⟨by simpa [isVoid] using hvoid, rfl⟩

/-- **What is joined onto the directory of a file** is looked up from the directory that its
canonical path lies in. -/
theorem WorksInside.locate_joinPath {reference : String}
    (hrelative : isAbsolute reference = false) :
    tree.locate (tree.start (joinPath (parent path) reference))
        (parts (joinPath (parent path) reference))
      = tree.locate canonical.dropLast (parts reference) := by
  obtain ⟨front, name, hparts, hname, hfront⟩ := hwork.exists_parts_of_file h hfile
  obtain ⟨ps, hjoined, hps, habsolute⟩ :=
    @exists_parts_joinPath (parent path) reference hrelative
  have hstart : tree.start (joinPath (parent path) reference) = tree.start path := by
    rw [start, start, habsolute, isAbsolute_parent hname hparts]
  have hne := parts_ne_nil reference
  rw [hstart, hjoined, ← locate_dropVoidEnd_append ps hne, hps,
    dropVoidEnd_parts_parent hname hparts, locate_dropVoidEnd_append front hne, locate_append,
    hfront]
  rfl

end

/-- A null character is not brought in by the directory of what is found. -/
theorem nul_notMem_joinPath (h : tree.resolve path = .ok canonical) {reference : String}
    (hnul : '\x00' ∉ reference.toList) : '\x00' ∉ (joinPath (parent path) reference).toList := by
  intro hmem
  rcases mem_toList_joinPath hmem with hslash | hdirectory | hreference
  · cases hslash
  · exact (resolve_eq_ok_iff.1 h).1 ((isPrefix_parent path).subset hdirectory)
  · exact hnul hreference

/-- **A reference from a file leads to the same file**, however the path of the first one is
spelled. -/
theorem WorksInside.resolve_joinPath (hwork : tree.WorksInside) {text text' : Option String}
    (h : tree.resolve path = .ok canonical) (h' : tree.resolve path' = .ok canonical)
    (hfile : tree.entry? canonical = some (.file text)) {reference : String}
    {found : List String} (hfound : tree.resolve (joinPath (parent path) reference) = .ok found)
    (hentry : tree.entry? found = some (.file text')) :
    tree.resolve (joinPath (parent path') reference) = .ok found := by
  cases habsolute : isAbsolute reference with
  | true =>
    rw [joinPath_of_isAbsolute habsolute] at hfound ⊢
    exact hfound
  | false =>
    obtain ⟨hnul, -, hlocate⟩ := resolve_eq_ok_iff.1 hfound
    rw [hwork.locate_joinPath h hfile habsolute] at hlocate
    have hnul' : '\x00' ∉ reference.toList := fun hmem => hnul (toList_subset_joinPath hmem)
    refine resolve_eq_ok_iff.2 ⟨nul_notMem_joinPath h' hnul', ?_, ?_⟩
    · -- An empty reference leads to the directory, which is no file.
      intro hempty
      have hreference : reference = "" := by
        have hsubset : reference.toList ⊆ (joinPath (parent path') reference).toList :=
          toList_subset_joinPath
        rw [hempty] at hsubset
        exact String.toList_eq_nil_iff.1 (List.subset_nil.1 hsubset)
      rw [hreference] at hlocate
      have hvoid : tree.locate canonical.dropLast [""] = .ok found := hlocate
      rw [locate_cons_of_isVoid rfl] at hvoid
      split at hvoid
      · cases hvoid
      · rename_i hdirectory
        rw [← Except.ok.inj hvoid] at hentry
        rw [hentry] at hdirectory
        simp at hdirectory
    · rw [hwork.locate_joinPath h' hfile habsolute]
      exact hlocate

end Tree

/-! ## Detours -/

/-- A path that first comes by the directory it starts from some times. -/
def detour : Nat → String → String
  | 0, path => path
  | n + 1, path => "./" ++ detour n path

theorem utf8ByteSize_detour (n : Nat) (path : String) :
    (detour n path).utf8ByteSize = 2 * n + path.utf8ByteSize := by
  induction n with
  | zero => rw [detour, Nat.mul_zero, Nat.zero_add]
  | succ n ih =>
    have hdot : "./".utf8ByteSize = 2 := rfl
    rw [detour, String.utf8ByteSize_append, ih, hdot]
    omega

theorem toList_detour_succ (n : Nat) (path : String) :
    (detour (n + 1) path).toList = '.' :: '/' :: (detour n path).toList := by
  rw [detour, String.toList_append]
  rfl

theorem isAbsolute_detour {path : String} (h : isAbsolute path = false) (n : Nat) :
    isAbsolute (detour n path) = false := by
  cases n with
  | zero => exact h
  | succ n =>
    rw [isAbsolute, toList_detour_succ]
    rfl

theorem parts_detour (n : Nat) (path : String) :
    parts (detour n path) = List.replicate n "." ++ parts path := by
  induction n with
  | zero => rfl
  | succ n ih =>
    rw [detour, List.replicate_succ, List.cons_append, ← ih]
    exact parts_append "." (detour n path)

theorem join_replicate_append {ps : List String} (hne : ps ≠ []) (n : Nat) :
    Text.join "/" (List.replicate n "." ++ ps) = detour n (Text.join "/" ps) := by
  induction n with
  | zero => rfl
  | succ n ih =>
    have hrest : List.replicate n "." ++ ps ≠ [] := List.append_ne_nil_of_right_ne_nil _ hne
    rw [List.replicate_succ, List.cons_append, detour, ← ih, Text.join,
      String.intercalate_cons_of_ne_nil hrest]
    rfl

/-- The directory of a detour to a file in a directory is a detour to the directory. -/
theorem parent_detour {path directory name : String} (hdirectory : isVoid directory = false)
    (hname : isVoid name = false) (hparts : parts path = [directory, name]) (n : Nat) :
    parent (detour n path) = detour n directory := by
  have hfront : parts (detour n path) = (List.replicate n "." ++ [directory]) ++ [name] := by
    rw [parts_detour, hparts, List.append_assoc]
    rfl
  have hjoin : Text.join "/" (List.replicate n "." ++ [directory]) = detour n directory := by
    rw [join_replicate_append (List.cons_ne_nil _ _), Text.join, String.intercalate_singleton]
  rcases parent_cases hname hfront with ⟨rest, hcons, -, -⟩ | ⟨rest, hcons, -, hparent⟩ |
    ⟨-, hparent⟩
  · -- The first part is a dot or the directory, and never empty.
    cases n with
    | zero =>
      rw [(List.cons.inj hcons).1] at hdirectory
      cases hdirectory
    | succ n => exact absurd (List.cons.inj hcons).1 (by decide)
  · cases n with
    | zero =>
      rw [(List.cons.inj hcons).1] at hdirectory
      cases hdirectory
    | succ n =>
      have hrest : List.replicate n "." ++ [directory] = rest := (List.cons.inj hcons).2
      have hne : List.replicate n "." ++ [directory] ≠ [] := by simp
      rw [hparent, ← hjoin, ← hrest, ← List.cons_append,
        dropVoidEnd_append_of_not_isVoid hdirectory, List.replicate_succ, List.cons_append,
        List.cons_append, Text.join, Text.join, String.intercalate_cons_of_ne_nil hne,
        String.intercalate_cons_of_ne_nil hne]
      rw [String.empty_append, ← String.append_assoc]
  · rw [hparent, dropVoidEnd_append_of_not_isVoid hdirectory, hjoin]

namespace Tree

variable {tree : Tree} {path : String} {canonical : List String}

/-- A path that is not too long is opened where it leads. -/
theorem opened_eq_resolve (h : path.utf8ByteSize ≤ maxPath) :
    tree.opened path = tree.resolve path := by
  rw [opened, if_neg (by simp [Nat.not_lt.2 h])]

/-- One that is too long is not. -/
theorem opened_of_maxPath_lt (hnul : '\x00' ∉ path.toList) (h : maxPath < path.utf8ByteSize) :
    tree.opened path = .error .nameTooLong := by
  rw [opened, if_pos (by simp [hnul, h])]

/-- **A detour leads to the same file.** -/
theorem resolve_detour (hdirectory : tree.entry? tree.working = some .directory)
    (hrelative : isAbsolute path = false) (h : tree.resolve path = .ok canonical) (n : Nat) :
    tree.resolve (detour n path) = .ok canonical := by
  induction n with
  | zero => exact h
  | succ n ih =>
    obtain ⟨hnul, -, hlocate⟩ := resolve_eq_ok_iff.1 ih
    have hparts : parts (detour (n + 1) path) = "." :: parts (detour n path) :=
      parts_append "." (detour n path)
    rw [start, isAbsolute_detour hrelative] at hlocate
    refine resolve_eq_ok_iff.2 ⟨?_, ?_, ?_⟩
    · rw [toList_detour_succ]
      simpa using hnul
    · intro hempty
      have hlist := toList_detour_succ n path
      rw [hempty] at hlist
      cases hlist
    · rw [start, isAbsolute_detour hrelative, hparts, locate_cons_of_isVoid rfl]
      simpa [hdirectory] using hlocate

/-- **And its canonical path can be worked out as well as before.** -/
theorem canonicalize_detour (hdirectory : tree.entry? tree.working = some .directory)
    (hrelative : isAbsolute path = false) (h : tree.resolve path = .ok canonical) (n : Nat) :
    tree.canonicalize (detour n path) = tree.canonicalize path := by
  have hfits : fits (tree.start (detour n path)) (parts (detour n path))
      = fits (tree.start path) (parts path) := by
    rw [start, start, isAbsolute_detour hrelative, hrelative, parts_detour]
    induction n with
    | zero => rfl
    | succ n ih =>
      rw [List.replicate_succ, List.cons_append, fits, if_pos (Or.inr rfl)]
      exact ih
  rw [canonicalize, canonicalize, resolve_detour hdirectory hrelative h n, h]
  simp only [hfits]

/-- **But it is too long to be opened** if it is long enough. -/
theorem opened_detour {n : Nat} (hnul : '\x00' ∉ path.toList)
    (h : maxPath < 2 * n + path.utf8ByteSize) :
    tree.opened (detour n path) = .error .nameTooLong := by
  refine opened_of_maxPath_lt ?_ (by rwa [utf8ByteSize_detour])
  clear h
  induction n with
  | zero => exact hnul
  | succ n ih =>
    rw [toList_detour_succ]
    simpa using ih

/-! ## Deep files -/

theorem utf8ByteSize_join (first : String) (rest : List String) :
    (Text.join "/" (first :: rest)).utf8ByteSize
      = first.utf8ByteSize + (rest.map fun name => name.utf8ByteSize + 1).sum := by
  have hslash : "/".utf8ByteSize = 1 := rfl
  induction rest generalizing first with
  | nil => rw [Text.join, String.intercalate_singleton]; rfl
  | cons second rest ih =>
    have hrest := ih second
    rw [Text.join] at hrest ⊢
    rw [String.intercalate_cons_cons, String.utf8ByteSize_append, String.utf8ByteSize_append,
      hslash, hrest, List.map_cons, List.sum_cons]
    omega

section

variable {name : String} (hname : IsName name)

include hname

/-- A name is a path of one part. -/
theorem parts_name : isAbsolute name = false ∧ parts name = [name] := by
  constructor
  · rw [← Bool.not_eq_true, isAbsolute_iff]
    rintro ⟨rest, hrest⟩
    exact hname.slash (hrest ▸ List.mem_cons_self)
  · rw [parts, Text.segments_of_notMem hname.slash, List.map_singleton, String.ofList_toList]

variable (hdirectory : tree.entry? tree.working = some .directory)
variable (hfound : (tree.entry? (tree.working ++ [name])).isSome)

include hdirectory hfound

/-- What is in the working directory is found by its name. -/
theorem resolve_name : tree.resolve name = .ok (tree.working ++ [name]) := by
  have hvoid : name ≠ "" ∧ name ≠ "." := by
    have hnot := hname.notVoid
    simpa [isVoid] using hnot
  obtain ⟨hrelative, hparts⟩ := parts_name hname
  refine resolve_eq_ok_iff.2 ⟨hname.nul, hvoid.1, ?_⟩
  rw [Option.isSome_iff_ne_none] at hfound
  simp [start, hrelative, hparts, locate, hdirectory, hvoid, hname.notUp, hname.short, hfound]

/-- **Its canonical path cannot be worked out** if it is too long. -/
theorem canonicalize_name (hdeep : maxPath < (render (tree.working ++ [name])).utf8ByteSize) :
    tree.canonicalize name = .error .nameTooLong := by
  have hvoid : name ≠ "" ∧ name ≠ "." := by
    have hnot := hname.notVoid
    simpa [isVoid] using hnot
  obtain ⟨hrelative, hparts⟩ := parts_name hname
  have hfits : fits (tree.start name) (parts name) = false := by
    simp [start, hrelative, hparts, fits, leadsOn, hvoid, hname.notUp, hdeep]
  rw [canonicalize, resolve_name hname hdirectory hfound]
  simp only [hfits, Bool.false_eq_true, if_false]

end

/-- A path that is too long to be opened. -/
def deepDirectory : List String := List.replicate 16 (String.ofList (List.replicate 255 'd'))

/-- A file in so deep a working directory. -/
def deepFile (text : String) : Tree where
  entries := (deepDirectory ++ ["a"], .file (some text))
    :: deepDirectory.inits.map fun path => (path, .directory)
  working := deepDirectory

variable {text : String}

theorem file_deepFile :
    Tree.entry? (deepFile text) (deepDirectory ++ ["a"]) = some (.file (some text)) := by
  unfold entry?
  rw [if_neg (by simp), deepFile, List.lookup_cons_self]

theorem directory_deepFile {way : List String} (h : way <+: deepDirectory) :
    Tree.entry? (deepFile text) way = some .directory := by
  have hother : (way == deepDirectory ++ ["a"]) = false := by
    rw [beq_eq_false_iff_ne]
    rintro rfl
    have hlength := h.length_le
    rw [List.length_append, List.length_singleton] at hlength
    omega
  have hdirectories : ((deepDirectory.inits.map fun path => (path, Entry.directory)).lookup way)
      = some .directory := by
    have hmem : (way, Entry.directory)
        ∈ deepDirectory.inits.map fun path => (path, Entry.directory) :=
      List.mem_map_of_mem ((List.mem_inits _ _).2 h)
    obtain ⟨entry, hentry⟩ := Option.isSome_iff_exists.1
      (List.lookup_isSome_iff.2 ⟨_, hmem, beq_self_eq_true way⟩)
    obtain ⟨l₁, l₂, heq, -⟩ := List.lookup_eq_some_iff.1 hentry
    have hfound : (way, entry) ∈ deepDirectory.inits.map fun path => (path, Entry.directory) := by
      rw [heq]
      exact List.mem_append_right _ List.mem_cons_self
    obtain ⟨_, -, hpair⟩ := List.mem_map.1 hfound
    rw [hentry, ← (Prod.mk.inj hpair).2]
  by_cases hroot : way = []
  · rw [hroot]
    rfl
  · unfold entry?
    rw [if_neg hroot, deepFile, List.lookup_cons, hother]
    exact hdirectories

/-- The working directory is there all the same. -/
theorem worksInside_deepFile : (deepFile text).WorksInside := by
  have hletters : ∀ c, c ≠ 'd' → c ∉ (String.ofList (List.replicate 255 'd')).toList := by
    intro c hne hmem
    rw [String.toList_ofList] at hmem
    exact hne (List.eq_of_mem_replicate hmem)
  have hname : IsName (String.ofList (List.replicate 255 'd')) :=
    ⟨by decide +kernel, by decide +kernel, by decide +kernel, hletters _ (by decide),
      hletters _ (by decide)⟩
  have hholds : (deepFile text).Holds deepDirectory :=
    ⟨fun name hmem => List.eq_of_mem_replicate hmem ▸ hname,
      fun way hway _ => directory_deepFile hway,
      by rw [directory_deepFile (List.prefix_refl _)]; rfl⟩
  exact hholds.resolve_render

/-- **The file is read in every spelling that is not too long, and known by it.** -/
theorem deepFile_spelling {n : Nat} (h : 2 * n < maxPath) :
    (deepFile text).resolve (detour n "a") = .ok (deepDirectory ++ ["a"]) ∧
      (deepFile text).read (detour n "a") = .ok text ∧
      (deepFile text).identity (detour n "a") = detour n "a" := by
  have hname : IsName "a" := ⟨by decide, by decide, by decide, by decide, by decide⟩
  have hdirectory : Tree.entry? (deepFile text) deepDirectory = some .directory :=
    directory_deepFile (List.prefix_refl _)
  have hfound : (Tree.entry? (deepFile text) (deepDirectory ++ ["a"])).isSome := by
    rw [file_deepFile]
    rfl
  have hdeep : maxPath < (render (deepDirectory ++ ["a"])).utf8ByteSize := by
    have hslash : "/".utf8ByteSize = 1 := rfl
    have hsize : (String.ofList (List.replicate 255 'd')).utf8ByteSize = 255 := by decide +kernel
    have hpath : deepDirectory ++ ["a"] = String.ofList (List.replicate 255 'd')
        :: (List.replicate 15 (String.ofList (List.replicate 255 'd')) ++ ["a"]) := rfl
    rw [render, String.utf8ByteSize_append, hpath, utf8ByteSize_join, List.map_append,
      List.map_replicate, List.sum_append, List.sum_replicate_nat, hsize, hslash, maxPath]
    decide
  have hresolve := resolve_name hname hdirectory hfound
  have hresolve' := resolve_detour hdirectory (by decide) hresolve n
  refine ⟨hresolve', ?_, ?_⟩
  · have hshort : (detour n "a").utf8ByteSize ≤ maxPath := by
      have hsize : "a".utf8ByteSize = 1 := rfl
      rw [utf8ByteSize_detour, hsize]
      omega
    refine read_eq_ok_iff.2 ⟨_, ?_, file_deepFile⟩
    rw [opened_eq_resolve hshort, hresolve']
    rfl
  · have hcanonical := canonicalize_detour hdirectory (by decide) hresolve n
    rw [canonicalize_name hname hdirectory hfound hdeep] at hcanonical
    simp only [identity, hcanonical]

end Tree

end WsdlTypes.File
