import Mathlib.Data.List.Infix
import WsdlTypes.Location
/-!
# Absolute and relative references

A reference is absolute when it begins with the name of a scheme, a colon and two slashes
(`Location.IsAbsolute`). Then it names the same location from everywhere. Every other reference is
meant relative to the document in which it stands: as a path from the directory of its file, or by
the rules for relative URLs (`Location.resolve`).

What a reference is taken for is decided by the mark `://` alone (`Location.looksLikeUrl_iff`),
which may also stand further behind, in a path, a query or a fragment. So relative references are
resolved exactly as long as they do not hold the mark, and those that do, but name no scheme, are
refused (`Location.join_absolute_or_relative`).
-/

namespace WsdlTypes

namespace Text

theorem occursIn_iff {part cs : List Char} : occursIn part cs = true ↔ part <:+: cs := by
  induction cs with
  | nil => rw [occursIn, List.isEmpty_iff, List.infix_nil]
  | cons c rest ih =>
    rw [occursIn, Bool.or_eq_true, List.isPrefixOf_iff_prefix, ih, List.infix_cons_iff]

end Text

namespace Url

/-- The name of a scheme: a letter, then letters, digits and a few signs. -/
def IsScheme : List Char → Prop
  | [] => False
  | c :: more =>
    c.isAlpha = true ∧ ∀ d ∈ more, d.isAlphanum = true ∨ d = '+' ∨ d = '-' ∨ d = '.'

instance (cs : List Char) : Decidable (IsScheme cs) :=
  match cs with
  | [] => isFalse id
  | c :: more =>
    -- The characters of the list are looked at, and not all that there are.
    have : Decidable (∀ d ∈ more, d.isAlphanum = true ∨ d = '+' ∨ d = '-' ∨ d = '.') :=
      List.decidableBAll _ more
    inferInstanceAs (Decidable (c.isAlpha = true ∧ _))

/-- A colon ends the name of a scheme. -/
theorem IsScheme.colon_not_mem {cs : List Char} (h : IsScheme cs) : ':' ∉ cs := by
  cases cs with
  | nil => exact List.not_mem_nil
  | cons c more =>
    intro hmem
    rcases List.mem_cons.1 hmem with rfl | hmem
    · exact absurd h.1 (by decide)
    · exact absurd (h.2 ':' hmem) (by decide)

/-- A text names a scheme, if the characters around it and in it that do not count are left out. -/
def NamesScheme (text : String) : Prop :=
  let isOuter (c : Char) : Bool := c.toNat ≤ 0x20
  (scheme? ((text.toList.dropWhile isOuter).reverse.dropWhile isOuter).reverse).isSome = true

instance (text : String) : Decidable (NamesScheme text) :=
  inferInstanceAs (Decidable (_ = true))

/-- What names no scheme is no URL by itself. -/
theorem parse?_of_not_namesScheme {text : String} (h : ¬NamesScheme text) :
    parse? none text = none := by
  have hnone := Option.not_isSome_iff_eq_none.1 h
  simp only [parse?, hnone, Option.bind_none]

end Url

namespace Location

variable {base : Location} {reference : String}

/-- The mark of a URL. -/
def mark : List Char := [':', '/', '/']

/-- A reference that begins with a scheme and the mark. -/
def IsAbsolute (reference : String) : Prop :=
  ∃ scheme rest, Url.IsScheme scheme ∧ reference.toList = scheme ++ mark ++ rest

/-- The location that a reference names relative to a document: by its path from the directory of
the document, or as a URL against the one of the document. -/
def resolve (base : Location) (reference : String) : Except LoadError Location :=
  match base with
  | file path => .ok (.file (path.join reference))
  | url address =>
    match Url.parse? (Url.parse? none address.render) reference with
    | some joined => .ok (.url joined)
    | none => .error (.invalidLocation reference)

theorem looksLikeUrl_iff : looksLikeUrl reference = true ↔ mark <:+: reference.toList :=
  Text.occursIn_iff

/-- What stands in front of the first colon has to be the scheme. -/
theorem isAbsolute_iff : IsAbsolute reference ↔
    ∃ scheme rest, Text.splitOnce? ':' reference.toList = some (scheme, rest) ∧
      Url.IsScheme scheme ∧ ['/', '/'] <+: rest := by
  constructor
  · rintro ⟨scheme, rest, hscheme, heq⟩
    refine ⟨scheme, '/' :: '/' :: rest, ?_, hscheme, rest, rfl⟩
    rw [Text.splitOnce?_eq_some_iff, heq, List.append_assoc]
    exact ⟨rfl, hscheme.colon_not_mem⟩
  · rintro ⟨scheme, _, hsplit, hscheme, rest, rfl⟩
    refine ⟨scheme, rest, hscheme, ?_⟩
    rw [(Text.splitOnce?_eq_some_iff.1 hsplit).1, List.append_assoc]
    rfl

instance (reference : String) : Decidable (IsAbsolute reference) :=
  match h : Text.splitOnce? ':' reference.toList with
  | none => isFalse fun habsolute => by
    obtain ⟨scheme, rest, hsplit, -⟩ := isAbsolute_iff.1 habsolute
    cases h.symm.trans hsplit
  | some (scheme, rest) =>
    decidable_of_iff (Url.IsScheme scheme ∧ ['/', '/'] <+: rest)
      ⟨fun hboth => isAbsolute_iff.2 ⟨scheme, rest, h, hboth⟩, fun habsolute => by
        obtain ⟨scheme', rest', hsplit, hboth⟩ := isAbsolute_iff.1 habsolute
        cases h.symm.trans hsplit
        exact hboth⟩

theorem IsAbsolute.mark_infix (h : IsAbsolute reference) : mark <:+: reference.toList := by
  obtain ⟨scheme, rest, -, heq⟩ := h
  exact ⟨scheme, rest, heq.symm⟩

theorem join_of_not_looksLikeUrl (h : looksLikeUrl reference = false) :
    base.join reference = base.resolve reference := by
  unfold join
  rw [if_neg (by simp [h])]
  cases base with
  | file path => rfl
  | url address =>
    unfold resolve
    cases Url.parse? (Url.parse? none address.render) reference <;> rfl

/-- A file and a URL have nothing in common that is relative to both of them. -/
theorem resolve_file_ne_resolve_url (path : File.Path) (address : Url) :
    (file path).resolve reference ≠ (url address).resolve reference := by
  simp only [resolve]
  split <;> simp

/-- What holds the mark but names no scheme is refused. -/
theorem join_of_not_namesScheme (hmark : mark <:+: reference.toList)
    (h : ¬Url.NamesScheme reference) :
    base.join reference = .error (.invalidLocation reference) := by
  have hlooks := looksLikeUrl_iff.2 hmark
  rw [join_of_looksLikeUrl hlooks, parse, hlooks, Url.parse?_of_not_namesScheme h]
  rfl

/-- **An absolute reference means the same everywhere, and a relative one is resolved unless it
holds the mark.** With the mark in it, what it names is not told by the document any more: of a file
and a URL there is always one relative to which it is not resolved, and it is refused everywhere if
it names no scheme. -/
theorem join_absolute_or_relative :
    (IsAbsolute reference → ∀ base base' : Location, base.join reference = base'.join reference) ∧
      (¬IsAbsolute reference →
        (¬mark <:+: reference.toList →
          ∀ base : Location, base.join reference = base.resolve reference) ∧
        (mark <:+: reference.toList →
          (∀ path address, ¬((file path).join reference = (file path).resolve reference ∧
            (url address).join reference = (url address).resolve reference)) ∧
          (¬Url.NamesScheme reference →
            ∀ base : Location, base.join reference = .error (.invalidLocation reference)))) := by
  have hsame : mark <:+: reference.toList → ∀ base base' : Location,
      base.join reference = base'.join reference := fun h _ _ => by
    rw [join_of_looksLikeUrl (looksLikeUrl_iff.2 h), join_of_looksLikeUrl (looksLikeUrl_iff.2 h)]
  refine ⟨fun h => hsame h.mark_infix, fun _ => ⟨fun hnone base => ?_, fun hmark =>
    ⟨fun path address => ?_, fun hscheme base => join_of_not_namesScheme hmark hscheme⟩⟩⟩
  · rw [← looksLikeUrl_iff, Bool.not_eq_true] at hnone
    exact join_of_not_looksLikeUrl hnone
  · rintro ⟨hfile, hurl⟩
    rw [hsame hmark (url address) (file path), hfile] at hurl
    exact resolve_file_ne_resolve_url path address hurl

/-- A URL of a scheme that is not known, a path, and a path with a URL in its query. -/
theorem join_absolute_or_relative_schemes :
    let base := file "/d/a.wsdl"
    let base' := url { scheme := "http", host := some (.domain "h"), path := "/a/b" }
    IsAbsolute "ftp://h/a" ∧ base.join "ftp://h/a" = base'.join "ftp://h/a" ∧
      ¬IsAbsolute "../t/a.xsd" ∧ base.join "../t/a.xsd" = base.resolve "../t/a.xsd" ∧
      base'.join "../t/a.xsd" = base'.resolve "../t/a.xsd" ∧
      ¬IsAbsolute "c?u=http://x" ∧ ¬Url.NamesScheme "c?u=http://x" ∧
      base.join "c?u=http://x" = .error (.invalidLocation "c?u=http://x") := by
  intro base base'
  have habsolute : IsAbsolute "ftp://h/a" := by decide
  have hpath : ¬IsAbsolute "../t/a.xsd" := by decide
  have hquery : ¬IsAbsolute "c?u=http://x" := by decide
  have hscheme : ¬Url.NamesScheme "c?u=http://x" := by decide
  have hnone : ¬mark <:+: "../t/a.xsd".toList := by decide
  have hmark : mark <:+: "c?u=http://x".toList := by decide
  have hresolved := (join_absolute_or_relative.2 hpath).1 hnone
  have hrefused := ((join_absolute_or_relative.2 hquery).2 hmark).2 hscheme
  exact ⟨habsolute, join_absolute_or_relative.1 habsolute base base', hpath, hresolved base,
    hresolved base', hquery, hscheme, hrefused base⟩

/-- **A mark in a query makes a reference absolute.** It begins with no scheme and names a location
as a path and as a URL, but it is refused from a file and from a URL. -/
theorem mark_in_query_is_refused :
    ∃ base, parse "http://h/a/b" = .ok base ∧ ¬IsAbsolute "c?u=http://x" ∧
      (base.resolve "c?u=http://x").map display = .ok "http://h/a/c?u=http://x" ∧
      base.join "c?u=http://x" = .error (.invalidLocation "c?u=http://x") ∧
      ((file "/d/a").resolve "c?u=http://x").map display = .ok "/d/c?u=http://x" ∧
      (file "/d/a").join "c?u=http://x" = .error (.invalidLocation "c?u=http://x") := by
  refine ⟨url { scheme := "http", host := some (.domain "h"), path := "/a/b" }, ?_⟩
  decide +kernel

end Location

end WsdlTypes
