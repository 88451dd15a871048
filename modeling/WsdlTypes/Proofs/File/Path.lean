import Mathlib.Data.List.DropRight
import WsdlTypes.File.Path
/-!
# The parts of a path

A path is what its parts make with slashes between them (`parts_append`, `parts_join`). The
directory that a path lies in has the parts of the path but the last one, and so has what is
joined onto it in front (`dropVoidEnd_parts_parent`, `exists_parts_joinPath`); only parts that
lead nowhere, empty ones and lone dots, may come and go at the end.
-/

namespace WsdlTypes

namespace Text

variable {separator : Char} {run : List Char} {runs : List (List Char)}

theorem segments_append (front back : List Char) :
    segments separator (front ++ separator :: back)
      = segments separator front ++ segments separator back := by
  induction front with
  | nil => simp [segments]
  | cons c rest ih =>
    simp only [List.cons_append, segments, ih]
    by_cases hc : c = separator
    · simp only [if_pos hc, List.cons_append]
    · simp only [if_neg hc]
      cases hrest : segments separator rest with
      | nil => exact absurd hrest (segments_ne_nil separator rest)
      | cons first others => rfl

theorem segments_of_notMem (h : separator ∉ run) : segments separator run = [run] := by
  induction run with
  | nil => rfl
  | cons c rest ih =>
    obtain ⟨hne, hrest⟩ := not_or.1 (mt List.mem_cons.2 h)
    simp only [segments, if_neg (Ne.symm hne), ih hrest]

/-- The characters of the runs are those of the text. -/
theorem mem_of_mem_segments {cs : List Char} {c : Char} (hrun : run ∈ segments separator cs)
    (hc : c ∈ run) : c ∈ cs := by
  induction cs generalizing run with
  | nil =>
    rw [segments, List.mem_singleton] at hrun
    rw [hrun] at hc
    cases hc
  | cons first rest ih =>
    simp only [segments] at hrun
    split at hrun
    · rcases List.mem_cons.1 hrun with rfl | hrun
      · cases hc
      · exact List.mem_cons_of_mem _ (ih hrun hc)
    · split at hrun
      · rename_i hnone
        exact absurd hnone (segments_ne_nil separator rest)
      · rename_i run' others hrest
        rcases List.mem_cons.1 hrun with rfl | hrun
        · rcases List.mem_cons.1 hc with rfl | hc
          · exact List.mem_cons_self
          · exact List.mem_cons_of_mem _ (ih (hrest ▸ List.mem_cons_self) hc)
        · exact List.mem_cons_of_mem _ (ih (hrest ▸ List.mem_cons_of_mem _ hrun) hc)

/-- Runs without the separator are found again between separators. -/
theorem segments_intercalate (hne : runs ≠ []) (h : ∀ run ∈ runs, separator ∉ run) :
    segments separator (List.intercalate [separator] runs) = runs := by
  induction runs with
  | nil => exact absurd rfl hne
  | cons first rest ih =>
    have hfirst := segments_of_notMem (h first List.mem_cons_self)
    cases rest with
    | nil => simpa using hfirst
    | cons second others =>
      have hrest := ih (List.cons_ne_nil _ _) fun run hrun => h run (List.mem_cons_of_mem _ hrun)
      rw [List.intercalate_cons_cons, List.append_assoc, List.singleton_append, segments_append,
        hfirst, hrest, List.singleton_append]

end Text

namespace File

variable {path directory reference : String} {front : List String} {name : String}

theorem parts_ne_nil (path : String) : parts path ≠ [] := by
  rw [parts, ne_eq, List.map_eq_nil_iff]
  exact Text.segments_ne_nil _ _

theorem notMem_of_mem_parts {part : String} (h : part ∈ parts path) : '/' ∉ part.toList := by
  obtain ⟨run, hrun, rfl⟩ := List.mem_map.1 h
  rw [String.toList_ofList]
  exact Text.notMem_of_mem_segments hrun

/-- The parts of two paths with a slash between them. -/
theorem parts_append (front back : String) :
    parts (front ++ "/" ++ back) = parts front ++ parts back := by
  have hslash : (front ++ "/" ++ back).toList = front.toList ++ '/' :: back.toList := by
    simp [String.toList_append]
  rw [parts, hslash, Text.segments_append, List.map_append]
  rfl

/-- A path has the parts that it is made of. -/
theorem parts_join {ps : List String} (hne : ps ≠ []) (h : ∀ part ∈ ps, '/' ∉ part.toList) :
    parts (Text.join "/" ps) = ps := by
  have hruns : ∀ run ∈ ps.map String.toList, '/' ∉ run := by
    intro run hrun
    obtain ⟨part, hpart, rfl⟩ := List.mem_map.1 hrun
    exact h part hpart
  have hslash : "/".toList = ['/'] := rfl
  rw [parts, Text.join, String.toList_intercalate, hslash,
    Text.segments_intercalate (by simpa using hne) hruns, List.map_map]
  exact List.map_id'' (fun part => String.ofList_toList) ps

/-- A path is made of its parts. -/
theorem join_parts (path : String) : Text.join "/" (parts path) = path := by
  have hslash : "/".toList = ['/'] := rfl
  rw [← String.toList_inj, Text.join, String.toList_intercalate, hslash, parts, List.map_map]
  have hruns : (Text.segments '/' path.toList).map (String.toList ∘ String.ofList)
      = Text.segments '/' path.toList :=
    List.map_id'' (fun run => String.toList_ofList) _
  rw [hruns, Text.intercalate_segments]

/-- Fewer parts make the front of a path. -/
theorem join_prefix {ps qs : List String} (h : ps <+: qs) :
    (Text.join "/" ps).toList <+: (Text.join "/" qs).toList := by
  obtain ⟨rest, rfl⟩ := h
  induction ps with
  | nil => exact List.nil_prefix
  | cons first ps ih =>
    cases ps with
    | nil =>
      cases rest with
      | nil => exact List.prefix_refl _
      | cons second others =>
        rw [List.singleton_append, Text.join, Text.join, String.intercalate_singleton,
          String.intercalate_cons_cons, String.append_assoc, String.toList_append]
        exact List.prefix_append _ _
    | cons second others =>
      simp only [Text.join, List.cons_append, String.intercalate_cons_cons,
        String.toList_append] at ih ⊢
      exact (List.prefix_append_right_inj _).2 ih

/-- The characters of the parts are those of the path. -/
theorem mem_toList_of_mem_parts {part : String} {c : Char} (h : part ∈ parts path)
    (hc : c ∈ part.toList) : c ∈ path.toList := by
  obtain ⟨run, hrun, rfl⟩ := List.mem_map.1 h
  rw [String.toList_ofList] at hc
  exact Text.mem_of_mem_segments hrun hc

/-- And those of a path are those of its parts, and slashes. -/
theorem mem_toList_join {ps : List String} {c : Char} (h : c ∈ (Text.join "/" ps).toList) :
    c = '/' ∨ ∃ part ∈ ps, c ∈ part.toList := by
  induction ps with
  | nil => simp [Text.join] at h
  | cons first rest ih =>
    cases rest with
    | nil =>
      rw [Text.join, String.intercalate_singleton] at h
      exact Or.inr ⟨first, List.mem_cons_self, h⟩
    | cons second others =>
      rw [Text.join, String.intercalate_cons_cons, String.toList_append, String.toList_append,
        List.mem_append, List.mem_append] at h
      rcases h with (h | h) | h
      · exact Or.inr ⟨first, List.mem_cons_self, h⟩
      · exact Or.inl (by simpa using h)
      · rcases ih h with hslash | ⟨part, hpart, hc⟩
        · exact Or.inl hslash
        · exact Or.inr ⟨part, List.mem_cons_of_mem _ hpart, hc⟩

/-! ## Parts that lead nowhere -/

/-- A part that leads nowhere: an empty one, or a lone dot. -/
def isVoid (part : String) : Bool := part == "" || part == "."

theorem dropVoidEnd_append_of_isVoid {ps : List String} {part : String} (h : isVoid part = true) :
    dropVoidEnd (ps ++ [part]) = dropVoidEnd ps :=
  List.rdropWhile_concat_pos _ _ _ h

theorem dropVoidEnd_append_of_not_isVoid {ps : List String} {part : String}
    (h : isVoid part = false) : dropVoidEnd (ps ++ [part]) = ps ++ [part] := by
  have hkept : ¬ isVoid part = true := by
    rw [h]
    exact Bool.false_ne_true
  exact List.rdropWhile_concat_neg _ _ _ hkept

theorem dropVoidEnd_idem (ps : List String) : dropVoidEnd (dropVoidEnd ps) = dropVoidEnd ps :=
  List.rdropWhile_idempotent isVoid ps

/-- Nothing but parts that lead nowhere goes. -/
theorem exists_append_dropVoidEnd (ps : List String) :
    ∃ voids, ps = dropVoidEnd ps ++ voids ∧ ∀ part ∈ voids, isVoid part = true := by
  induction ps using List.reverseRecOn with
  | nil => exact ⟨[], rfl, nofun⟩
  | append_singleton ps part ih =>
    cases hpart : isVoid part with
    | false => exact ⟨[], by rw [dropVoidEnd_append_of_not_isVoid hpart, List.append_nil], nofun⟩
    | true =>
      obtain ⟨voids, hps, hvoids⟩ := ih
      refine ⟨voids ++ [part], ?_, fun other hother => ?_⟩
      · rw [dropVoidEnd_append_of_isVoid hpart, ← List.append_assoc, ← hps]
      · rcases List.mem_append.1 hother with hold | hnew
        · exact hvoids other hold
        · exact List.mem_singleton.1 hnew ▸ hpart

/-- What is left of a first part and others depends on what is left of these. -/
theorem dropVoidEnd_cons (first : String) (ps : List String) :
    dropVoidEnd (first :: ps)
      = if dropVoidEnd ps = [] then dropVoidEnd [first] else first :: dropVoidEnd ps := by
  induction ps using List.reverseRecOn with
  | nil => rfl
  | append_singleton ps part ih =>
    rw [← List.cons_append]
    cases hpart : isVoid part with
    | false =>
      rw [dropVoidEnd_append_of_not_isVoid hpart, dropVoidEnd_append_of_not_isVoid hpart,
        if_neg (by simp)]
      rfl
    | true => rw [dropVoidEnd_append_of_isVoid hpart, dropVoidEnd_append_of_isVoid hpart, ih]

theorem dropVoidEnd_subset (ps : List String) : dropVoidEnd ps ⊆ ps :=
  (List.rdropWhile_prefix isVoid ps).subset

/-- A path that is made of parts has these, but for what leads nowhere. -/
theorem dropVoidEnd_parts_join {ps : List String} (h : ∀ part ∈ ps, '/' ∉ part.toList) :
    dropVoidEnd (parts (Text.join "/" ps)) = dropVoidEnd ps := by
  cases ps with
  | nil => rfl
  | cons first rest => rw [parts_join (List.cons_ne_nil _ _) h]

/-! ## Directories -/

theorem isAbsolute_iff : isAbsolute path = true ↔ ∃ rest, path.toList = '/' :: rest := by
  rw [isAbsolute]
  cases path.toList with
  | nil => simp
  | cons c rest => simp

/-- A path starts where its front starts. -/
theorem isAbsolute_append (h : directory ≠ "") (rest : String) :
    isAbsolute (directory ++ rest) = isAbsolute directory := by
  cases hdirectory : directory.toList with
  | nil => exact absurd (String.toList_eq_nil_iff.1 hdirectory) h
  | cons c cs =>
    rw [isAbsolute, isAbsolute, String.toList_append, hdirectory]
    rfl

/-- A path that starts with a slash has an empty part in front. -/
theorem parts_slash_append (path : String) : parts ("/" ++ path) = "" :: parts path := by
  have hparts := parts_append "" path
  rwa [String.empty_append] at hparts

theorem parts_of_toList_slash {rest : List Char} (h : path.toList = '/' :: rest) :
    parts path = "" :: parts (String.ofList rest) := by
  have hpath : path = "/" ++ String.ofList rest := by
    rw [← String.toList_inj, h, String.toList_append, String.toList_ofList]
    simp
  rw [hpath, parts_slash_append]

/-- The first part is empty where a path is, or starts with a slash. -/
theorem isAbsolute_of_head?_parts (h : (parts path).head? = some "") (hne : path ≠ "") :
    isAbsolute path = true := by
  cases hpath : path.toList with
  | nil => exact absurd (String.toList_eq_nil_iff.1 hpath) hne
  | cons c rest =>
    by_cases hc : c = '/'
    · exact isAbsolute_iff.2 ⟨rest, by rw [hpath, hc]⟩
    · rw [parts, hpath] at h
      simp only [Text.segments, if_neg hc] at h
      cases hrest : Text.segments '/' rest with
      | nil => exact absurd hrest (Text.segments_ne_nil _ _)
      | cons run others =>
        rw [hrest] at h
        simp [← String.toList_inj] at h

/-- **The directory of a path is the front of it.** -/
theorem isPrefix_parent (path : String) : (parent path).toList <+: path.toList := by
  have hvoid : ∀ ps, dropVoidEnd ps <+: ps := fun ps => List.rdropWhile_prefix isVoid ps
  unfold parent
  split
  rename_i start rest heq
  have hpath : path.toList = start.toList ++ rest := by
    split at heq
    · rename_i cs hcs
      obtain ⟨rfl, rfl⟩ := Prod.mk.inj heq
      exact hcs
    · rename_i hcs
      obtain ⟨rfl, rfl⟩ := Prod.mk.inj heq
      exact hcs
    · rename_i cs hcs
      obtain ⟨rfl, rfl⟩ := Prod.mk.inj heq
      exact hcs
    · obtain ⟨rfl, rfl⟩ := Prod.mk.inj heq
      rfl
  have hrest := join_parts (String.ofList rest)
  rw [hpath]
  cases hkept : dropVoidEnd (parts (String.ofList rest)) with
  | nil => exact List.nil_prefix
  | cons part more =>
    have hparts : part :: more <+: parts (String.ofList rest) := hkept ▸ hvoid _
    have hjoin := join_prefix ((hvoid _).trans ((List.dropLast_prefix _).trans hparts))
    rw [hrest, String.toList_ofList] at hjoin
    rw [String.toList_append]
    exact (List.prefix_append_right_inj _).2 hjoin

/-- The directory of a path, by how the path starts. -/
theorem parent_eq {start : String} {ps : List String} (hname : isVoid name = false)
    (hparts : ps = front ++ [name]) :
    (match dropVoidEnd ps with
      | [] => ""
      | part :: more => start ++ Text.join "/" (dropVoidEnd (part :: more).dropLast))
      = start ++ Text.join "/" (dropVoidEnd front) := by
  rw [hparts, dropVoidEnd_append_of_not_isVoid hname]
  cases hfront : front ++ [name] with
  | nil => simp at hfront
  | cons part more =>
    have hlast : (part :: more).dropLast = front := by rw [← hfront, List.dropLast_concat]
    simp only [hlast]

theorem parent_of_slash {rest : List Char} (h : path.toList = '/' :: rest)
    (hname : isVoid name = false) (hparts : parts (String.ofList rest) = front ++ [name]) :
    parent path = "/" ++ Text.join "/" (dropVoidEnd front) := by
  simp only [parent, h]
  exact parent_eq hname hparts

theorem parent_of_dot {rest : List Char} (h : path.toList = '.' :: '/' :: rest)
    (hname : isVoid name = false)
    (hparts : parts (String.ofList ('/' :: rest)) = front ++ [name]) :
    parent path = "." ++ Text.join "/" (dropVoidEnd front) := by
  simp only [parent, h]
  exact parent_eq hname hparts

theorem parent_of_other (hslash : ∀ rest, path.toList ≠ '/' :: rest)
    (hdot : path.toList ≠ ['.']) (hdots : ∀ rest, path.toList ≠ '.' :: '/' :: rest)
    (hname : isVoid name = false) (hparts : parts path = front ++ [name]) :
    parent path = Text.join "/" (dropVoidEnd front) := by
  unfold parent
  split
  rename_i start rest heq
  split at heq
  · rename_i cs hcs
    exact absurd hcs (hslash cs)
  · rename_i hcs
    exact absurd hcs hdot
  · rename_i cs hcs
    exact absurd hcs (hdots cs)
  · obtain ⟨rfl, rfl⟩ := Prod.mk.inj heq
    rw [String.ofList_toList]
    exact (parent_eq hname hparts).trans (String.empty_append)

/-- A row of parts that starts with one part and others ends as these do. -/
theorem exists_eq_append_of_cons {first : String} {others : List String} (hne : others ≠ [])
    (h : first :: others = front ++ [name]) :
    ∃ rest, front = first :: rest ∧ others = rest ++ [name] := by
  cases front with
  | nil =>
    obtain ⟨-, hothers⟩ := List.cons.inj h
    exact absurd hothers hne
  | cons part rest =>
    obtain ⟨rfl, hothers⟩ := List.cons.inj h
    exact ⟨rest, rfl, hothers⟩

/-- The directory of a path that ends in a name: below the root, below a leading dot, or
neither. -/
theorem parent_cases (hname : isVoid name = false) (hparts : parts path = front ++ [name]) :
    (∃ rest, front = "" :: rest ∧ isAbsolute path = true ∧
        parent path = "/" ++ Text.join "/" (dropVoidEnd rest)) ∨
      (∃ rest, front = "." :: rest ∧ isAbsolute path = false ∧
        parent path = "." ++ Text.join "/" (dropVoidEnd ("" :: rest))) ∨
      isAbsolute path = false ∧ parent path = Text.join "/" (dropVoidEnd front) := by
  by_cases hslash : ∃ rest, path.toList = '/' :: rest
  · obtain ⟨rest, hpath⟩ := hslash
    have hcons := parts_of_toList_slash hpath
    rw [hparts] at hcons
    obtain ⟨ps, hfront, hps⟩ := exists_eq_append_of_cons (parts_ne_nil _) hcons.symm
    exact Or.inl ⟨ps, hfront, isAbsolute_iff.2 ⟨rest, hpath⟩, parent_of_slash hpath hname hps⟩
  · have hrelative : isAbsolute path = false := by
      rw [← Bool.not_eq_true, isAbsolute_iff]
      exact hslash
    by_cases hdots : ∃ rest, path.toList = '.' :: '/' :: rest
    · obtain ⟨rest, hpath⟩ := hdots
      have hdot : parts path = "." :: parts (String.ofList rest) := by
        have hwhole : path = "." ++ "/" ++ String.ofList rest := by
          rw [← String.toList_inj, hpath]
          simp
        rw [hwhole, parts_append]
        rfl
      rw [hparts] at hdot
      obtain ⟨ps, hfront, hps⟩ := exists_eq_append_of_cons (parts_ne_nil _) hdot.symm
      have hbehind : parts (String.ofList ('/' :: rest)) = ("" :: ps) ++ [name] := by
        rw [parts_of_toList_slash (String.toList_ofList), hps, List.cons_append]
      exact Or.inr (Or.inl ⟨ps, hfront, hrelative, parent_of_dot hpath hname hbehind⟩)
    · have hlone : path.toList ≠ ['.'] := by
        intro hpath
        have hsingle : parts path = [] ++ ["."] := by
          rw [parts, hpath]
          rfl
        rw [hparts] at hsingle
        obtain ⟨-, hlast⟩ := List.append_inj' hsingle rfl
        rw [(List.cons.inj hlast).1] at hname
        cases hname
      exact Or.inr (Or.inr ⟨hrelative, parent_of_other (fun rest h => hslash ⟨rest, h⟩) hlone
        (fun rest h => hdots ⟨rest, h⟩) hname hparts⟩)

section

variable (hname : isVoid name = false) (hparts : parts path = front ++ [name])

include hparts in
theorem notMem_of_mem_front {part : String} (h : part ∈ front) : '/' ∉ part.toList :=
  notMem_of_mem_parts (hparts ▸ List.mem_append_left _ h)

include hname hparts

/-- **The directory of a path has its parts but the last one**, apart from what leads
nowhere. -/
theorem dropVoidEnd_parts_parent : dropVoidEnd (parts (parent path)) = dropVoidEnd front := by
  have hslashes : ∀ ps, ps ⊆ front → ∀ part ∈ dropVoidEnd ps, '/' ∉ part.toList :=
    fun ps hps part hpart => notMem_of_mem_front hparts (hps (dropVoidEnd_subset ps hpart))
  rcases parent_cases hname hparts with ⟨rest, rfl, -, hparent⟩ | ⟨rest, rfl, -, hparent⟩ |
    ⟨-, hparent⟩
  · have hrest := hslashes rest (List.subset_cons_self _ _)
    rw [hparent, parts_slash_append, dropVoidEnd_cons, dropVoidEnd_parts_join hrest,
      dropVoidEnd_idem, ← dropVoidEnd_cons]
  · have hrest := hslashes rest (List.subset_cons_self _ _)
    rw [hparent, dropVoidEnd_cons "" rest, dropVoidEnd_cons "." rest]
    by_cases hnone : dropVoidEnd rest = []
    · rw [if_pos hnone, if_pos hnone]
      rfl
    · rw [if_neg hnone, if_neg hnone]
      -- Behind the dot there is a slash, and then the other parts.
      have hwhole : "." ++ Text.join "/" ("" :: dropVoidEnd rest)
          = "." ++ "/" ++ Text.join "/" (dropVoidEnd rest) := by
        rw [Text.join, String.intercalate_cons_of_ne_nil hnone, String.empty_append,
          String.append_assoc]
        rfl
      rw [hwhole, parts_append, parts_join hnone hrest]
      have hdot : parts "." = ["."] := by decide
      rw [hdot, List.singleton_append, dropVoidEnd_cons, dropVoidEnd_idem, if_neg hnone]
  · rw [hparent, dropVoidEnd_parts_join (hslashes front (List.Subset.refl _)), dropVoidEnd_idem]

/-- And it starts where the path starts. -/
theorem isAbsolute_parent : isAbsolute (parent path) = isAbsolute path := by
  rcases parent_cases hname hparts with ⟨rest, -, habsolute, hparent⟩ |
    ⟨rest, -, hrelative, hparent⟩ | ⟨hrelative, hparent⟩
  · rw [habsolute, hparent]
    exact isAbsolute_iff.2 ⟨(Text.join "/" (dropVoidEnd rest)).toList, by simp⟩
  · rw [hrelative, hparent, ← Bool.not_eq_true, isAbsolute_iff]
    rintro ⟨others, hothers⟩
    simp at hothers
  · rw [hrelative, hparent, ← Bool.not_eq_true]
    intro habsolute
    obtain ⟨others, hothers⟩ := isAbsolute_iff.1 habsolute
    have hhead : (parts (Text.join "/" (dropVoidEnd front))).head? = some "" := by
      rw [parts_of_toList_slash hothers]
      rfl
    -- Then the path starts with an empty part, too, and is absolute itself.
    cases hkept : dropVoidEnd front with
    | nil =>
      rw [hkept] at hothers
      simp [Text.join] at hothers
    | cons first rest =>
      rw [parts_join (hkept ▸ List.cons_ne_nil _ _)
        (fun part hpart => notMem_of_mem_front hparts (dropVoidEnd_subset front hpart)),
        hkept] at hhead
      obtain ⟨voids, hfront, -⟩ := exists_append_dropVoidEnd front
      have hpath : (parts path).head? = some "" := by
        rw [hparts, hfront, hkept]
        exact hhead
      have hne : path ≠ "" := by
        rintro rfl
        have hempty : [] ++ [""] = front ++ [name] := hparts
        obtain ⟨-, hlast⟩ := List.append_inj' hempty rfl
        rw [← (List.cons.inj hlast).1] at hname
        cases hname
      rw [isAbsolute_of_head?_parts hpath hne] at hrelative
      cases hrelative

end

/-! ## What is joined onto a directory -/

theorem mem_toList_joinPath {c : Char} (h : c ∈ (joinPath directory reference).toList) :
    c = '/' ∨ c ∈ directory.toList ∨ c ∈ reference.toList := by
  unfold joinPath at h
  split at h
  · exact Or.inr (Or.inr h)
  · split at h
    · rw [String.toList_append, List.mem_append] at h
      exact Or.inr h
    · rw [String.toList_append, String.toList_append, List.mem_append, List.mem_append] at h
      rcases h with (h | h) | h
      · exact Or.inr (Or.inl h)
      · exact Or.inl (by simpa using h)
      · exact Or.inr (Or.inr h)

theorem toList_subset_joinPath : reference.toList ⊆ (joinPath directory reference).toList := by
  unfold joinPath
  split
  · exact List.Subset.refl _
  · split
    · rw [String.toList_append]
      exact List.subset_append_right _ _
    · rw [String.toList_append]
      exact List.subset_append_right _ _

/-- **What is joined onto a directory** has the parts of the directory in front, apart from
what leads nowhere, and starts where the directory starts. -/
theorem exists_parts_joinPath (h : isAbsolute reference = false) :
    ∃ ps, parts (joinPath directory reference) = ps ++ parts reference ∧
      dropVoidEnd ps = dropVoidEnd (parts directory) ∧
      isAbsolute (joinPath directory reference) = isAbsolute directory := by
  by_cases hempty : directory = ""
  · subst hempty
    have hjoin : joinPath "" reference = reference := by simp [joinPath]
    rw [hjoin, h]
    exact ⟨[], rfl, rfl, rfl⟩
  · have hjoin : joinPath directory reference
        = if directory.endsWith "/" then directory ++ reference
          else directory ++ "/" ++ reference := by
      simp [joinPath, h, hempty]
    rw [hjoin]
    by_cases hend : directory.endsWith "/" = true
    · -- The slash is there already, so an empty part less is in between.
      rw [if_pos hend]
      obtain ⟨cs, hcs⟩ := String.Slice.endsWith_string_iff.1 hend
      rw [String.copy_toSlice] at hcs
      have hwhole : directory = String.ofList cs ++ "/" := by
        rw [← String.toList_inj, ← hcs]
        simp
      have hparts : parts directory = parts (String.ofList cs) ++ [""] := by
        have happend := parts_append (String.ofList cs) ""
        rwa [String.append_empty, ← hwhole] at happend
      refine ⟨parts (String.ofList cs), ?_, ?_, isAbsolute_append hempty _⟩
      · rw [hwhole, parts_append]
      · rw [hparts, dropVoidEnd_append_of_isVoid rfl]
    · rw [if_neg hend]
      refine ⟨parts directory, parts_append _ _, rfl, ?_⟩
      rw [String.append_assoc]
      exact isAbsolute_append hempty _

/-- What is joined onto a directory is as long as both together, but for a slash. -/
theorem utf8ByteSize_joinPath
    (hrelative : isAbsolute reference = false) :
    directory.utf8ByteSize + reference.utf8ByteSize
        ≤ (joinPath directory reference).utf8ByteSize ∧
      (joinPath directory reference).utf8ByteSize
        ≤ directory.utf8ByteSize + 1 + reference.utf8ByteSize := by
  have hslash : "/".utf8ByteSize = 1 := rfl
  have hempty : "".utf8ByteSize = 0 := rfl
  unfold joinPath
  split
  · rename_i h
    have hdirectory : directory = "" := by simpa [hrelative] using h
    rw [hdirectory, hempty]
    omega
  · split
    · rw [String.utf8ByteSize_append]
      omega
    · rw [String.utf8ByteSize_append, String.utf8ByteSize_append, hslash]
      omega

end File

end WsdlTypes
