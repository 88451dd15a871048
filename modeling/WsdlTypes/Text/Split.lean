/-!
# Splitting text

Cutting a text at a separating character: once, at the first place (`splitOnce?`), or
everywhere (`segments`). Both lose nothing but the separators: `splitOnce?_eq_some_iff` and
`intercalate_segments` put the text together again.
-/

namespace WsdlTypes.Text

/-- The text before and after the first separator, if there is one. -/
def splitOnce? (separator : Char) : List Char → Option (List Char × List Char)
  | [] => none
  | c :: rest =>
    if c = separator then some ([], rest)
    else (splitOnce? separator rest).map fun parts => (c :: parts.1, parts.2)

/-- The runs of text between separators; there is one more run than separators. -/
def segments (separator : Char) : List Char → List (List Char)
  | [] => [[]]
  | c :: rest =>
    if c = separator then [] :: segments separator rest
    else
      match segments separator rest with
      | [] => [[c]]
      | run :: runs => (c :: run) :: runs

/-- Whether a text occurs in another, at any place. -/
def occursIn (part : List Char) : List Char → Bool
  | [] => part.isEmpty
  | c :: rest => part.isPrefixOf (c :: rest) || occursIn part rest

/-- The texts in order with a text between each two. -/
def join (between : String) (parts : List String) : String := String.intercalate between parts

theorem splitOnce?_eq_some_iff {separator : Char} {cs before after : List Char} :
    splitOnce? separator cs = some (before, after) ↔
      cs = before ++ separator :: after ∧ separator ∉ before := by
  induction cs generalizing before with
  | nil => simp [splitOnce?]
  | cons c rest ih =>
    by_cases h : c = separator
    · subst h
      cases before with
      | nil => simp [splitOnce?, eq_comm]
      | cons b bs =>
        simp only [splitOnce?, if_pos, Option.some.injEq, Prod.mk.injEq, List.cons_append,
          List.cons.injEq, List.mem_cons, not_or]
        constructor
        · rintro ⟨h, -⟩; cases h
        · rintro ⟨⟨rfl, -⟩, h, -⟩; exact absurd rfl h
    · cases before with
      | nil => simp [splitOnce?, h]
      | cons b bs =>
        simp only [splitOnce?, if_neg h, Option.map_eq_some_iff, Prod.exists, Prod.mk.injEq,
          List.cons.injEq, List.cons_append, List.mem_cons, not_or]
        constructor
        · rintro ⟨x, y, hxy, ⟨rfl, rfl⟩, rfl⟩
          have := ih.1 hxy
          exact ⟨⟨rfl, this.1⟩, fun e => h e.symm, this.2⟩
        · rintro ⟨⟨rfl, hr⟩, -, hn⟩
          exact ⟨bs, after, ih.2 ⟨hr, hn⟩, ⟨rfl, rfl⟩, rfl⟩

theorem segments_ne_nil (separator : Char) (cs : List Char) : segments separator cs ≠ [] := by
  cases cs with
  | nil => simp [segments]
  | cons c rest =>
    simp only [segments]
    split
    · simp
    · split <;> simp

/-- A run holds no separator. -/
theorem notMem_of_mem_segments {separator : Char} {cs run : List Char}
    (h : run ∈ segments separator cs) : separator ∉ run := by
  induction cs generalizing run with
  | nil => simp_all [segments]
  | cons c rest ih =>
    simp only [segments] at h
    split at h
    · rcases List.mem_cons.1 h with rfl | h
      · simp
      · exact ih h
    · rename_i hc
      split at h
      · simp only [List.mem_singleton] at h
        subst h
        simpa using fun e => hc e.symm
      · rename_i first others heq
        rcases List.mem_cons.1 h with rfl | h
        · have := ih (heq ▸ List.mem_cons_self)
          simpa [this] using fun e => hc e.symm
        · exact ih (heq ▸ List.mem_cons_of_mem _ h)

/-- The runs with the separator between each two are the text. -/
theorem intercalate_segments (separator : Char) (cs : List Char) :
    List.intercalate [separator] (segments separator cs) = cs := by
  induction cs with
  | nil => simp [segments]
  | cons c rest ih =>
    simp only [segments]
    split
    · rename_i h
      subst h
      have hne := segments_ne_nil c rest
      cases hs : segments c rest with
      | nil => exact absurd hs hne
      | cons run runs => rw [hs] at ih; simp [List.intercalate_cons_cons, ih]
    · split
      · rename_i hs; exact absurd hs (segments_ne_nil separator rest)
      · rename_i run runs hs
        rw [hs] at ih
        cases runs with
        | nil => simp_all
        | cons second others => simp_all [List.intercalate_cons_cons]

end WsdlTypes.Text
