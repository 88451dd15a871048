import Mathlib.Data.List.Infix
import WsdlTypes.Naming
/-!
# Paths of namespaces

The path of a namespace is a row of words with the separator between each two
(`Naming.toList_package`). Where no word takes a character of the separator, the separators are all
that there is between words, so that a row starts with none, ends with none, and has no two of them
in a row (`Text.length_le_of_infix_intercalate`). And the name of a type ends a qualified name: as
long as it takes no character of the separator, it starts behind the last one
(`Text.append_separator_inj`). So a qualified name tells both the path of the namespace and the name
of the type (`Naming.package_of_words`), although it does not tell the namespace itself.
-/

namespace WsdlTypes

/-! ## Rows of words -/

namespace Text

variable {words : List (List Char)} {separator run gap rest u : List Char} {c : Char}

/-- A word: at least one character, and none that words do not take. -/
def IsWord (cs : List Char) : Prop := cs ≠ [] ∧ ∀ c ∈ cs, isWord c = true

/-- No word takes any of some characters. -/
def OutsideWords (cs : List Char) : Prop := ∀ c ∈ cs, isWord c = false

/-- What no word takes a character of does not start inside a run of characters that words take. -/
theorem infix_of_infix_append (hne : u ≠ []) (hu : OutsideWords u)
    (hrun : ∀ c ∈ run, isWord c = true) (h : u <:+: run ++ rest) : u <:+: rest := by
  induction run with
  | nil => exact h
  | cons c run ih =>
    rw [List.cons_append, List.infix_cons_iff] at h
    rcases h with hstart | hlater
    · obtain ⟨d, more, rfl⟩ := List.exists_cons_of_ne_nil hne
      have hd : isWord d = false := hu d List.mem_cons_self
      rw [(List.cons_prefix_cons.1 hstart).1, hrun c List.mem_cons_self] at hd
      cases hd
    · exact ih (fun d hd => hrun d (List.mem_cons_of_mem _ hd)) hlater

/-- What holds a character that a text does not hold bounds the text: one that starts in front of
the character ends there, too. -/
theorem length_le_or_infix (hc : c ∉ u) (h : u <:+: gap ++ c :: rest) :
    u.length ≤ gap.length ∨ u <:+: c :: rest := by
  induction gap with
  | nil => exact Or.inr h
  | cons d gap ih =>
    rw [List.cons_append, List.infix_cons_iff] at h
    rcases h with hstart | hlater
    · refine Or.inl (Nat.le_of_not_lt fun hlt => hc ?_)
      -- A longer text would go on with the character.
      have hwhole : d :: gap ++ [c] <+: d :: (gap ++ c :: rest) :=
        ⟨rest, by rw [List.append_assoc]; rfl⟩
      have hlonger : (d :: gap ++ [c]).length ≤ u.length := by
        rw [List.length_append]
        exact hlt
      have hinside := List.prefix_of_prefix_length_le hwhole hstart hlonger
      exact hinside.subset (List.mem_append_right _ List.mem_cons_self)
    · exact (ih hlater).imp_left fun hle => hle.trans (Nat.le_succ _)

/-- A row of words starts with a character of a word, -/
theorem exists_cons_intercalate (separator : List Char) (hwords : ∀ w ∈ words, IsWord w)
    (hne : words ≠ []) :
    ∃ c rest, List.intercalate separator words = c :: rest ∧ isWord c = true := by
  obtain ⟨w, more, rfl⟩ := List.exists_cons_of_ne_nil hne
  obtain ⟨hw, hchars⟩ := hwords w List.mem_cons_self
  obtain ⟨c, cs, rfl⟩ := List.exists_cons_of_ne_nil hw
  have hc := hchars c List.mem_cons_self
  cases more with
  | nil => exact ⟨c, cs, List.intercalate_singleton .., hc⟩
  | cons w' more =>
    rw [List.intercalate_cons_cons]
    exact ⟨c, _, rfl, hc⟩

/-- and it ends with one. -/
theorem exists_concat_intercalate (separator : List Char) (hwords : ∀ w ∈ words, IsWord w)
    (hne : words ≠ []) :
    ∃ front c, List.intercalate separator words = front ++ [c] ∧ isWord c = true := by
  induction words with
  | nil => exact absurd rfl hne
  | cons w more ih =>
    cases more with
    | nil =>
      obtain ⟨hw, hchars⟩ := hwords w List.mem_cons_self
      rw [List.intercalate_singleton]
      exact ⟨w.dropLast, w.getLast hw, (List.dropLast_append_getLast hw).symm,
        hchars _ (List.getLast_mem hw)⟩
    | cons w' more =>
      obtain ⟨front, c, heq, hc⟩ :=
        ih (fun v hv => hwords v (List.mem_cons_of_mem _ hv)) (List.cons_ne_nil _ _)
      refine ⟨w ++ separator ++ front, c, ?_, hc⟩
      rw [List.intercalate_cons_cons, heq, List.append_assoc (w ++ separator)]

/-- **Between words there is one separator**: no longer text without characters of words occurs in
a row. -/
theorem length_le_of_infix_intercalate (hwords : ∀ w ∈ words, IsWord w) (hu : OutsideWords u)
    (h : u <:+: List.intercalate separator words) : u.length ≤ separator.length := by
  rcases eq_or_ne u [] with rfl | hne
  · exact Nat.zero_le _
  induction words with
  | nil => exact absurd (List.infix_nil.1 h) hne
  | cons w more ih =>
    have hchars := (hwords w List.mem_cons_self).2
    have hmore : ∀ v ∈ more, IsWord v := fun v hv => hwords v (List.mem_cons_of_mem _ hv)
    cases more with
    | nil =>
      rw [List.intercalate_singleton, ← List.append_nil w] at h
      exact absurd (List.infix_nil.1 (infix_of_infix_append hne hu hchars h)) hne
    | cons w' more =>
      rw [List.intercalate_cons_cons, List.append_assoc] at h
      have hbehind := infix_of_infix_append hne hu hchars h
      obtain ⟨c, rest, heq, hc⟩ :=
        exists_cons_intercalate separator hmore (List.cons_ne_nil _ _)
      have hnot : c ∉ u := fun hmem => by
        rw [hu c hmem] at hc
        cases hc
      rw [heq] at hbehind
      rcases length_le_or_infix hnot hbehind with hle | hlater
      · exact hle
      · exact ih hmore (heq ▸ hlater)

section

variable (hwords : ∀ w ∈ words, IsWord w) (hne : separator ≠ []) (hout : OutsideWords separator)

include hwords hne hout

theorem not_prefix_intercalate : ¬separator <+: List.intercalate separator words := by
  intro h
  obtain ⟨d, more, rfl⟩ := List.exists_cons_of_ne_nil hne
  rcases eq_or_ne words [] with rfl | hsome
  · exact hne (List.prefix_nil.1 h)
  · obtain ⟨c, rest, heq, hc⟩ := exists_cons_intercalate (d :: more) hwords hsome
    rw [heq] at h
    rw [← (List.cons_prefix_cons.1 h).1, hout d List.mem_cons_self] at hc
    cases hc

theorem not_suffix_intercalate : ¬separator <:+ List.intercalate separator words := by
  intro h
  rcases eq_or_ne words [] with rfl | hsome
  · exact hne (List.suffix_nil.1 h)
  · obtain ⟨front, c, heq, hc⟩ := exists_concat_intercalate separator hwords hsome
    obtain ⟨before, hbefore⟩ := h
    have hlast : separator.getLast hne = c := by
      rw [heq, ← List.dropLast_append_getLast hne, ← List.append_assoc] at hbefore
      exact List.singleton_inj.1 (List.append_inj_right' hbefore rfl)
    rw [← hlast, hout _ (List.getLast_mem hne)] at hc
    cases hc

theorem not_infix_intercalate :
    ¬separator ++ separator <:+: List.intercalate separator words := by
  intro h
  have hboth : OutsideWords (separator ++ separator) := fun c hc =>
    hout c (or_self_iff.1 (List.mem_append.1 hc))
  have hle := length_le_of_infix_intercalate hwords hboth h
  have hpos := List.length_pos_of_ne_nil hne
  rw [List.length_append] at hle
  omega

end

/-- **What is behind the last separator is told by the whole**, and so is what is in front of it. -/
theorem append_separator_inj {front front' last last' : List Char} (hne : separator ≠ [])
    (hlast : ∀ c ∈ last, c ∉ separator) (hlast' : ∀ c ∈ last', c ∉ separator)
    (h : front ++ separator ++ last = front' ++ separator ++ last') :
    front = front' ∧ last = last' := by
  obtain ⟨init, x, rfl⟩ : ∃ init x, separator = init ++ [x] :=
    ⟨_, _, (List.dropLast_append_getLast hne).symm⟩
  -- Read from its end, the whole is cut at the first character that ends a separator.
  have hcut : ∀ before behind : List Char, (∀ c ∈ behind, c ∉ init ++ [x]) →
      splitOnce? x (before ++ (init ++ [x]) ++ behind).reverse
        = some (behind.reverse, (before ++ init).reverse) := by
    intro before behind hfree
    refine splitOnce?_eq_some_iff.2 ⟨by simp, fun hx => ?_⟩
    exact hfree x (List.mem_reverse.1 hx) (List.mem_append_right _ List.mem_cons_self)
  have hcuts := hcut front last hlast
  rw [h, hcut front' last' hlast', Option.some.injEq, Prod.mk.injEq, List.reverse_inj,
    List.reverse_inj] at hcuts
  exact ⟨(List.append_cancel_right hcuts.2).symm, hcuts.1.symm⟩

end Text

/-! ## Paths and names -/

namespace Naming

variable {naming : Naming} {uri : String} {key key' : ExpandedName}

/-- The words of the path of a namespace. -/
def segments (naming : Naming) (uri : String) : List (List Char) :=
  match naming.style with
  | .flat => []
  | .hierarchical => packageSegments uri

theorem toList_package (naming : Naming) (uri : String) : (naming.package uri).toList
    = List.intercalate naming.separator.toList (naming.segments uri) := by
  unfold package segments
  cases naming.style with
  | flat => rfl
  | hierarchical =>
    rw [Text.join, String.toList_intercalate, List.map_map]
    congr 1
    exact List.map_id'' (fun part => String.toList_ofList) _

/-- An underscore may stand in a word, so nothing is left in a part that may not. -/
theorem isWord_of_mem_wordOf {part : List Char} {c : Char} (h : c ∈ wordOf part) :
    Text.isWord c = true := by
  obtain ⟨d, -, rfl⟩ := List.mem_map.1 h
  split
  · assumption
  · decide

theorem isWord_of_mem_segments {segment : List Char} (h : segment ∈ naming.segments uri) :
    Text.IsWord segment := by
  unfold segments at h
  split at h
  · cases h
  · obtain ⟨part, hpart, rfl⟩ := List.mem_map.1 h
    have hpart : part ≠ [] := by simpa using (List.mem_filter.1 hpart).2
    refine ⟨?_, fun c hc => isWord_of_mem_wordOf hc⟩
    simpa [wordOf] using hpart

theorem toList_qualifiedName (naming : Naming) (key : ExpandedName) :
    (naming.qualifiedName key).toList
      = if naming.package key.uri = "" then key.name.toList
        else (naming.package key.uri).toList ++ naming.separator.toList ++ key.name.toList := by
  simp only [qualifiedName, String.isEmpty_iff]
  split
  · rfl
  · rw [String.toList_append, String.toList_append]

/-- A qualified name holds a character of the separator exactly where the namespace has a path. -/
theorem exists_mem_separator_iff (hne : naming.separator ≠ "")
    (hname : ∀ c ∈ key.name.toList, c ∉ naming.separator.toList) :
    (∃ c ∈ (naming.qualifiedName key).toList, c ∈ naming.separator.toList) ↔
      naming.package key.uri ≠ "" := by
  rw [toList_qualifiedName]
  split
  · rename_i hpath
    exact iff_of_false (fun ⟨c, hc, hseparator⟩ => hname c hc hseparator) (not_not.2 hpath)
  · rename_i hpath
    have hchars : naming.separator.toList ≠ [] := by simpa using hne
    obtain ⟨c, hc⟩ := List.exists_mem_of_ne_nil _ hchars
    exact iff_of_true ⟨c, List.mem_append_left _ (List.mem_append_right _ hc), hc⟩ hpath

theorem eq_of_qualifiedName_eq (hne : naming.separator ≠ "")
    (hname : ∀ c ∈ key.name.toList, c ∉ naming.separator.toList)
    (hname' : ∀ c ∈ key'.name.toList, c ∉ naming.separator.toList)
    (h : naming.qualifiedName key = naming.qualifiedName key') :
    naming.package key.uri = naming.package key'.uri ∧ key.name = key'.name := by
  -- There is a path in both or in none.
  have hsame : naming.package key.uri ≠ "" ↔ naming.package key'.uri ≠ "" := by
    rw [← exists_mem_separator_iff hne hname, ← exists_mem_separator_iff hne hname', h]
  have hchars := congrArg String.toList h
  rw [toList_qualifiedName, toList_qualifiedName] at hchars
  by_cases hpath : naming.package key.uri = ""
  · have hpath' : naming.package key'.uri = "" := not_not.1 fun hne' => hsame.2 hne' hpath
    rw [if_pos hpath, if_pos hpath'] at hchars
    exact ⟨hpath.trans hpath'.symm, String.toList_inj.1 hchars⟩
  · rw [if_neg hpath, if_neg (hsame.1 hpath)] at hchars
    have hboth := Text.append_separator_inj (by simpa using hne) hname hname' hchars
    exact ⟨String.toList_inj.1 hboth.1, String.toList_inj.1 hboth.2⟩

/-- **What a path is made of, and what a qualified name tells.** Under any style and any separator
the path of a namespace is a row of words, none of them empty, with the separator between each two.
If there is a separator and no word takes a character of it, no path starts with it, ends with it,
or holds it twice in a row; and of two types whose names take no character of it, those of one
qualified name are of one path and have one name. -/
theorem package_of_words (naming : Naming) :
    (∀ uri, (naming.package uri).toList
        = List.intercalate naming.separator.toList (naming.segments uri) ∧
      ∀ segment ∈ naming.segments uri, segment ≠ [] ∧ ∀ c ∈ segment, Text.isWord c = true) ∧
    (naming.separator ≠ "" → (∀ c ∈ naming.separator.toList, Text.isWord c = false) →
      (∀ uri,
        ¬naming.separator.toList <+: (naming.package uri).toList ∧
        ¬naming.separator.toList <:+ (naming.package uri).toList ∧
        ¬naming.separator.toList ++ naming.separator.toList <:+: (naming.package uri).toList) ∧
      ∀ key key' : ExpandedName,
        (∀ c ∈ key.name.toList, c ∉ naming.separator.toList) →
        (∀ c ∈ key'.name.toList, c ∉ naming.separator.toList) →
        naming.qualifiedName key = naming.qualifiedName key' →
        naming.package key.uri = naming.package key'.uri ∧ key.name = key'.name) := by
  have hwords : ∀ uri, ∀ segment ∈ naming.segments uri, Text.IsWord segment :=
    fun uri segment hsegment => isWord_of_mem_segments hsegment
  refine ⟨fun uri => ⟨toList_package naming uri, hwords uri⟩, fun hne hout => ⟨fun uri => ?_, ?_⟩⟩
  · have hchars : naming.separator.toList ≠ [] := by simpa using hne
    rw [toList_package]
    exact ⟨Text.not_prefix_intercalate (hwords uri) hchars hout,
      Text.not_suffix_intercalate (hwords uri) hchars hout,
      Text.not_infix_intercalate (hwords uri) hchars hout⟩
  · exact fun key key' hname hname' h => eq_of_qualifiedName_eq hne hname hname' h

/-- Two namespaces of one path, and a type of one name in each: the qualified names are the same. -/
theorem package_of_words_backslash :
    let naming : Naming := ⟨.hierarchical, "\\"⟩
    let key : ExpandedName := ⟨"http://soap.a-b.tld/my.service", "T"⟩
    let key' : ExpandedName := ⟨"https://SOAP.a-b.tld/my.service/", "T"⟩
    naming.separator ≠ "" ∧ (∀ c ∈ naming.separator.toList, Text.isWord c = false) ∧
      (∀ c ∈ key.name.toList, c ∉ naming.separator.toList) ∧
      (∀ c ∈ key'.name.toList, c ∉ naming.separator.toList) ∧
      naming.qualifiedName key = naming.qualifiedName key' ∧
      naming.package key.uri = "tld\\a_b\\soap\\my_service" ∧
      ¬naming.separator.toList <:+ (naming.package key.uri).toList ∧
      naming.package key.uri = naming.package key'.uri ∧ key.name = key'.name := by
  intro naming key key'
  have hne : naming.separator ≠ "" := by decide
  have hseparator : naming.separator.toList = ['\\'] := by decide
  have hout : ∀ c ∈ naming.separator.toList, Text.isWord c = false := by
    rw [hseparator, List.forall_mem_singleton]
    decide
  have hname : ∀ c ∈ "T".toList, c ∉ naming.separator.toList := by
    rw [hseparator, (by decide : "T".toList = ['T']), List.forall_mem_singleton]
    decide
  have hqualified : naming.qualifiedName key = naming.qualifiedName key' := by decide +kernel
  have hpath : naming.package key.uri = "tld\\a_b\\soap\\my_service" := by decide +kernel
  obtain ⟨hends, htold⟩ := (package_of_words naming).2 hne hout
  exact ⟨hne, hout, hname, hname, hqualified, hpath, (hends key.uri).2.1,
    htold key key' hname hname hqualified⟩

end Naming

end WsdlTypes
