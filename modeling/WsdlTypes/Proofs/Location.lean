import WsdlTypes.Proofs.File.Tree
import WsdlTypes.Proofs.Library
import WsdlTypes.Proofs.Relative
import WsdlTypes.Proofs.Url
/-!
# Where locations lead

What is read at a location depends on the place that it leads to, and not on how it is spelled
(`root?_eq_of_place_eq`), and so does what a reference leads to that stands in a document there
(`exists_join_of_place_eq`). It depends on what the location is known by, too
(`root?_of_identity_eq`), if the location is not written like a path that it does not open
(`Location.Fair`): a path may be too long to be opened, and octets that are no text are written like
another path.

A location is named by a text or by a reference, so no path looks like a URL, unless it is
absolute, and no URL like a path from the root (`Location.IsProper`).
-/

namespace WsdlTypes

/-! ## Texts of paths and URLs -/

/-- A URL of the web holds the mark of one and does not begin with a slash. -/
theorem Url.looksLikeUrl_of_isOfWeb {written : String} (h : Url.isOfWeb written = true) :
    Location.looksLikeUrl written = true ∧ File.isAbsolute written = false := by
  have hsplit : ∃ name rest, written.toList = name ++ Location.mark ++ rest ∧
      name.head? = some 'h' := by
    rw [isOfWeb, Bool.or_eq_true, List.isPrefixOf_iff_prefix, List.isPrefixOf_iff_prefix] at h
    rcases h with ⟨rest, heq⟩ | ⟨rest, heq⟩
    · exact ⟨['h', 't', 't', 'p'], rest, heq.symm, rfl⟩
    · exact ⟨['h', 't', 't', 'p', 's'], rest, heq.symm, rfl⟩
  obtain ⟨name, rest, heq, hhead⟩ := hsplit
  refine ⟨Location.looksLikeUrl_iff.2 ⟨name, rest, heq.symm⟩, ?_⟩
  cases name with
  | nil => cases hhead
  | cons c more =>
    obtain rfl := Option.some.inj hhead
    rw [File.isAbsolute, heq]
    rfl

namespace Location

/-- A mark in two texts stands in one of them, or it begins at the end of the first one. -/
theorem mark_infix_append {front back : List Char} (h : mark <:+: front ++ back) :
    mark <:+: front ∨ mark <:+: back ∨ ['/', '/'] <+: back ∨
      (∃ cs, front = cs ++ [':', '/']) ∧ ['/'] <+: back := by
  obtain ⟨before, after, heq⟩ := h
  rw [List.append_assoc] at heq
  rcases List.append_eq_append_iff.1 heq with ⟨cs, hfront, hrest⟩ | ⟨cs, hbefore, hback⟩
  · -- By how much of the mark stands in the first text.
    rcases cs with _ | ⟨a, _ | ⟨b, _ | ⟨c, cs⟩⟩⟩ <;>
      simp only [mark, List.cons_append, List.nil_append, List.cons.injEq] at hrest
    · exact Or.inr (Or.inl ⟨[], after, hrest⟩)
    · exact Or.inr (Or.inr (Or.inl ⟨after, hrest.2⟩))
    · obtain ⟨rfl, rfl, hback⟩ := hrest
      exact Or.inr (Or.inr (Or.inr ⟨⟨before, hfront⟩, after, hback⟩))
    · obtain ⟨rfl, rfl, rfl, -⟩ := hrest
      exact Or.inl ⟨before, cs, by rw [hfront, List.append_assoc]; rfl⟩
  · exact Or.inr (Or.inl ⟨cs, after, by rw [hback, List.append_assoc]⟩)

/-- What is joined onto the directory of a path looks like a URL only if one of them does, or it is
absolute. -/
theorem looksLikeUrl_joinPath {path reference : String}
    (hpath : File.isAbsolute path = true ∨ looksLikeUrl path = false)
    (hreference : looksLikeUrl reference = false) :
    File.isAbsolute (File.joinPath (File.parent path) reference) = true ∨
      looksLikeUrl (File.joinPath (File.parent path) reference) = false := by
  have hnot : ¬ mark <:+: reference.toList := fun hmark => by
    rw [looksLikeUrl_iff.2 hmark] at hreference
    cases hreference
  unfold File.joinPath
  split
  · exact Or.inr hreference
  · rename_i hdirectory
    obtain ⟨hrelative, hnonempty⟩ : File.isAbsolute reference = false ∧ File.parent path ≠ "" := by
      simpa using hdirectory
    have hhead : ∀ rest, reference.toList ≠ '/' :: rest := fun rest heq => by
      rw [File.isAbsolute_iff.2 ⟨rest, heq⟩] at hrelative
      cases hrelative
    rcases hpath with habsolute | hpath
    · -- The directory begins with the slash that the path begins with.
      have hparent : File.isAbsolute (File.parent path) = true := by
        obtain ⟨rest, hrest⟩ := File.isAbsolute_iff.1 habsolute
        obtain ⟨back, hback⟩ := File.isPrefix_parent path
        cases hcs : (File.parent path).toList with
        | nil => exact absurd (String.toList_eq_nil_iff.1 hcs) hnonempty
        | cons c cs =>
          rw [hcs, hrest, List.cons_append, List.cons.injEq] at hback
          exact File.isAbsolute_iff.2 ⟨cs, by rw [hcs, hback.1]⟩
      left
      split
      · rw [File.isAbsolute_append hnonempty, hparent]
      · rw [String.append_assoc, File.isAbsolute_append hnonempty, hparent]
    · have hnot' : ¬ mark <:+: (File.parent path).toList := fun hmark => by
        have hinfix := hmark.trans (File.isPrefix_parent path).isInfix
        rw [looksLikeUrl_iff.2 hinfix] at hpath
        cases hpath
      right
      rw [← Bool.not_eq_true, looksLikeUrl_iff]
      intro hmark
      split at hmark
      · rw [String.toList_append] at hmark
        rcases mark_infix_append hmark with h | h | ⟨rest, h⟩ | ⟨-, rest, h⟩
        · exact hnot' h
        · exact hnot h
        · exact hhead _ h.symm
        · exact hhead _ h.symm
      · rename_i hend
        rw [String.toList_append, String.toList_append] at hmark
        rcases mark_infix_append hmark with h | h | ⟨rest, h⟩ | ⟨-, rest, h⟩
        · -- A slash by itself does not end the mark of what has no slash at its end.
          rcases mark_infix_append h with h | h | h | ⟨⟨cs, hcs⟩, -⟩
          · exact hnot' h
          · exact absurd h.length_le (by decide)
          · exact absurd h.length_le (by decide)
          · refine hend (String.Slice.endsWith_string_iff.2 ⟨cs ++ [':'], ?_⟩)
            rw [String.copy_toSlice, hcs, List.append_assoc]
            rfl
        · exact hnot h
        · exact hhead _ h.symm
        · exact hhead _ h.symm

variable {tree : File.Tree} {location location' target : Location} {doctypes : Bool}
variable {root root' : Xml.Element} {reference : String} {path path' : String}
variable {address address' : Url}

/-! ## What is read -/

/-- Where a document is read there is a file, or the web has a text. -/
theorem exists_of_root? (h : location.root? doctypes tree = some root) :
    (∃ (path : String) (canonical : List String) (text : Option String), location = file path ∧
        tree.opened path = .ok canonical ∧ tree.entry? canonical = some (.file text)) ∨
      ∃ address, location = url address ∧ Url.isOfWeb address.render = true := by
  cases hfetch : location.fetch tree with
  | error cause => simp [root?, hfetch, Except.toOption] at h
  | ok text =>
    rcases fetch_eq_ok_iff.1 hfetch with ⟨path, rfl, hread⟩ | ⟨address, rfl, hdownload⟩
    · obtain ⟨canonical, hopened, hentry⟩ := File.Tree.read_eq_ok_iff.1 hread
      exact Or.inl ⟨path, canonical, some text, rfl, hopened, hentry⟩
    · exact Or.inr ⟨address, rfl, (Url.download_eq_ok_iff.1 hdownload).1⟩

/-- What is read at a path is told by the file that it opens. -/
theorem root?_of_opened_eq (h : tree.opened path' = tree.opened path) :
    (file path').root? doctypes tree = (file path).root? doctypes tree := by
  have hread : tree.read path' = tree.read path := by rw [File.Tree.read, h]; rfl
  simp only [root?, fetch, hread]
  cases tree.read path <;> rfl

/-- What is read at the path of a text is the document in it. -/
theorem root?_of_read {text : String} (h : tree.read path = .ok text) :
    (file path).root? doctypes tree = (Xml.Element.parse doctypes text).toOption := by
  simp only [root?, fetch, h]
  rfl

theorem root?_of_opened_eq_error {cause : File.Error} (h : tree.opened path = .error cause) :
    (file path).root? doctypes tree = none := by
  have hread : tree.read path = .error cause := by rw [File.Tree.read, h]; rfl
  simp only [root?, fetch, hread]
  rfl

/-- What is read at a URL is told by its writing. -/
theorem root?_of_render_eq (h : address'.render = address.render)
    (hroot : (url address).root? doctypes tree = some root) :
    (url address').root? doctypes tree = some root := by
  cases hfetch : (url address).fetch tree with
  | error cause => simp [root?, hfetch, Except.toOption] at hroot
  | ok text =>
    have hfetch' : (url address').fetch tree = .ok text := by
      rcases fetch_eq_ok_iff.1 hfetch with ⟨path, heq, -⟩ | ⟨other, heq, hdownload⟩
      · cases heq
      · obtain rfl := Location.url.inj heq
        rw [Url.download_eq_ok_iff, ← h, ← Url.download_eq_ok_iff] at hdownload
        exact fetch_eq_ok_iff.2 (Or.inr ⟨address', rfl, hdownload⟩)
    rw [root?, hfetch']
    rwa [root?, hfetch] at hroot

/-! ## Proper locations -/

/-- A location as a text or a reference can name it: a path that looks like no URL, or is
absolute, or a URL with a scheme. -/
def IsProper : Location → Prop
  | file path => File.isAbsolute path.display = true ∨ looksLikeUrl path.display = false
  | url address => address.HasScheme

/-- The path of a `file` URL is absolute. -/
theorem isAbsolute_of_filePath? {path : File.Path} (h : address.filePath? = some path) :
    File.isAbsolute path.display = true := by
  unfold Url.filePath? at h
  split at h
  · cases h
  · rename_i hnot
    obtain ⟨-, rest, hrest⟩ : address.host = none ∧ ['/'] <+: address.path.toList := by
      simpa using hnot
    have hdecode : Url.percentDecode address.path.toList = 0x2f :: Url.percentDecode rest := by
      rw [← hrest]
      rfl
    rw [hdecode] at h
    have hpath : ∃ octets, path = .ofOctets (0x2f :: octets) := by
      rw [← Option.some.inj h]
      split
      · split <;> exact ⟨_, rfl⟩
      · exact ⟨_, rfl⟩
    obtain ⟨octets, rfl⟩ := hpath
    rw [File.Path.display_ofOctets, File.isAbsolute_iff, String.toList_ofList, Text.decodeOctets]
    exact ⟨_, rfl⟩

theorem isProper_of_parse {source : String} (h : parse source = .ok location) :
    location.IsProper := by
  unfold parse at h
  split at h
  · rename_i hplain
    have hnot : looksLikeUrl source = false := by simpa using hplain
    rw [← Except.ok.inj h]
    exact Or.inr hnot
  · split at h
    · cases h
    · rename_i address hparse
      split at h
      · split at h
        · rename_i path hpath
          rw [← Except.ok.inj h]
          exact Or.inl (isAbsolute_of_filePath? hpath)
        · cases h
      · split at h
        · rw [← Except.ok.inj h]
          exact Url.hasScheme_parse? (fun _ hmem => absurd hmem (Option.not_mem_none _)) hparse
        · cases h

/-- What a reference names in a document that is read is a proper location. -/
theorem isProper_of_join (hroot : location.root? doctypes tree = some root)
    (hproper : location.IsProper) (hjoin : location.join reference = .ok target) :
    target.IsProper := by
  by_cases hurl : looksLikeUrl reference = true
  · rw [join_of_looksLikeUrl hurl] at hjoin
    exact isProper_of_parse hjoin
  · have hreference : looksLikeUrl reference = false := by simpa using hurl
    rw [join_of_not_looksLikeUrl hreference] at hjoin
    rcases exists_of_root? hroot with ⟨path, -, -, rfl, -, -⟩ | ⟨address, rfl, -⟩
    · rw [← Except.ok.inj hjoin]
      exact looksLikeUrl_joinPath hproper hreference
    · simp only [resolve] at hjoin
      split at hjoin
      · rename_i joined hparse
        rw [← Except.ok.inj hjoin]
        refine Url.hasScheme_parse? (fun base hbase => ?_) hparse
        exact Url.hasScheme_parse? (fun _ hmem => absurd hmem (Option.not_mem_none _)) hbase
      · cases hjoin

/-! ## Places -/

/-- Where a location leads to, in writing: the canonical path of what is there, or the location
as it is written. -/
def place (tree : File.Tree) : Location → String
  | file (.text path) => tree.place path
  | file path => path.display
  | url address => address.render

/-- A location does not pass for a file that it does not open. What it is written like leads
nowhere, unless it is a path that is not too long to be opened, or a URL that is seen to be one. -/
def Fair (tree : File.Tree) : Location → Prop
  | file (.text path) => path.utf8ByteSize ≤ File.Tree.maxPath ∨ tree.LeadsNowhere path
  | file path => tree.LeadsNowhere path.display
  | url address => looksLikeUrl address.render = true ∨ tree.LeadsNowhere address.render

instance (tree : File.Tree) (location : Location) : Decidable (location.Fair tree) :=
  match location with
  | file (.text path) => inferInstanceAs (Decidable (_ ∨ tree.LeadsNowhere path))
  | file (.octets path undecodable) =>
    inferInstanceAs (Decidable (tree.LeadsNowhere (File.Path.octets path undecodable).display))
  | url address => inferInstanceAs (Decidable (_ ∨ tree.LeadsNowhere address.render))

/-- A URL of a scheme is not written like the path from the root of an entry. -/
theorem render_ne_render (h : address.HasScheme) (canonical : List String) :
    address.render ≠ File.Tree.render canonical := by
  intro heq
  refine h.head?_render_ne ?_
  rw [heq, File.Tree.render, String.toList_append]
  rfl

theorem ne_render_of_isOfWeb {written : String} (h : Url.isOfWeb written = true)
    (canonical : List String) : written ≠ File.Tree.render canonical := by
  rintro rfl
  have habsolute := (Url.looksLikeUrl_of_isOfWeb h).2
  rw [File.Tree.isAbsolute_render] at habsolute
  cases habsolute

/-- A URL of the web is not written like a path. -/
theorem IsProper.display_ne {path : File.Path} {written : String} (h : (file path).IsProper)
    (hweb : Url.isOfWeb written = true) : path.display ≠ written := by
  rintro rfl
  obtain ⟨hlooks, hnot⟩ := Url.looksLikeUrl_of_isOfWeb hweb
  rcases h with h | h
  · rw [h] at hnot
    cases hnot
  · rw [h] at hlooks
    cases hlooks

/-- The place that a location in writing leads to. -/
def placeOf (tree : File.Tree) (written : String) : String :=
  if Url.isOfWeb written then written else tree.place written

/-- What is read leads to its place as it is written, too. -/
theorem placeOf_display (hroot : location.root? doctypes tree = some root)
    (hproper : location.IsProper) : placeOf tree location.display = location.place tree := by
  rcases exists_of_root? hroot with ⟨path, -, -, rfl, -, -⟩ | ⟨address, rfl, hweb⟩
  · have hfile : ¬Url.isOfWeb path = true := fun hweb => hproper.display_ne hweb rfl
    show placeOf tree path = tree.place path
    rw [placeOf, if_neg hfile]
  · show placeOf tree address.render = address.render
    rw [placeOf, if_pos hweb]

/-- **Of two locations of one place at which something is read** both are paths of one file, or both
are the same URL in writing. -/
theorem cases_of_place_eq (hwork : tree.WorksInside)
    (hroot : location.root? doctypes tree = some root)
    (hroot' : location'.root? doctypes tree = some root')
    (hplace : location'.place tree = location.place tree) :
    (∃ (path path' : String) (canonical : List String) (text : Option String),
        location = file path ∧ location' = file path' ∧ tree.opened path = .ok canonical ∧
        tree.opened path' = .ok canonical ∧ tree.entry? canonical = some (.file text)) ∨
      ∃ address address', location = url address ∧ location' = url address' ∧
        address'.render = address.render := by
  rcases exists_of_root? hroot with ⟨path, canonical, text, rfl, hopened, hentry⟩ |
    ⟨address, rfl, hweb⟩
  · have hresolve := File.Tree.resolve_eq_of_opened hopened
    have hown : (file path).place tree = File.Tree.render canonical :=
      File.Tree.place_of_resolve hresolve
    rcases exists_of_root? hroot' with ⟨path', canonical', -, rfl, hopened', -⟩ |
      ⟨address', rfl, hweb'⟩
    · have hresolve' := File.Tree.resolve_eq_of_opened hopened'
      have hsame := hwork.resolve_of_place_eq hresolve hplace
      rw [hresolve', Except.ok.injEq] at hsame
      rw [hsame] at hopened'
      exact Or.inl ⟨path, path', canonical, text, rfl, rfl, hopened, hopened', hentry⟩
    · exact absurd (hplace.trans hown) (ne_render_of_isOfWeb hweb' canonical)
  · rcases exists_of_root? hroot' with ⟨path', canonical', -, rfl, hopened', -⟩ |
      ⟨address', rfl, -⟩
    · have hown : (file path').place tree = File.Tree.render canonical' :=
        File.Tree.place_of_resolve (File.Tree.resolve_eq_of_opened hopened')
      exact absurd (hplace.symm.trans hown) (ne_render_of_isOfWeb hweb canonical')
    · exact Or.inr ⟨address, address', rfl, rfl, hplace⟩

/-- **What is read at a location is told by the place that it leads to.** -/
theorem root?_eq_of_place_eq (hwork : tree.WorksInside)
    (hroot : location.root? doctypes tree = some root)
    (hroot' : location'.root? doctypes tree = some root')
    (hplace : location'.place tree = location.place tree) : root' = root := by
  rcases cases_of_place_eq hwork hroot hroot' hplace with
    ⟨path, path', canonical, text, rfl, rfl, hopened, hopened', -⟩ |
    ⟨address, address', rfl, rfl, hrender⟩
  · rw [root?_of_opened_eq (hopened'.trans hopened.symm), hroot] at hroot'
    exact (Option.some.inj hroot').symm
  · rw [root?_of_render_eq hrender hroot] at hroot'
    exact (Option.some.inj hroot').symm

/-- **And so is what a reference in a document leads to**, where a document is read there. -/
theorem exists_join_of_place_eq (hwork : tree.WorksInside)
    (hroot : location.root? doctypes tree = some root)
    (hroot' : location'.root? doctypes tree = some root')
    (hplace : location'.place tree = location.place tree) {other : Xml.Element}
    (hjoin : location.join reference = .ok target)
    (htarget : target.root? doctypes tree = some other) :
    ∃ target', location'.join reference = .ok target' ∧ target'.place tree = target.place tree := by
  by_cases hurl : looksLikeUrl reference = true
  · rw [join_of_looksLikeUrl hurl] at hjoin
    exact ⟨target, by rw [join_of_looksLikeUrl hurl, hjoin], rfl⟩
  · have hplain : looksLikeUrl reference = false := by simpa using hurl
    rw [join_of_not_looksLikeUrl hplain] at hjoin
    rw [join_of_not_looksLikeUrl hplain]
    rcases cases_of_place_eq hwork hroot hroot' hplace with
      ⟨path, path', canonical, text, rfl, rfl, hopened, hopened', hentry⟩ |
      ⟨address, address', rfl, rfl, hrender⟩
    · have htext : target = file (File.joinPath (File.parent path) reference) :=
        (Except.ok.inj hjoin).symm
      rcases exists_of_root? htarget with ⟨joined, found, text', heq, hfound, hfile⟩ |
        ⟨address, heq, -⟩
      · have hresolve := File.Tree.resolve_eq_of_opened hopened
        have hresolve' := File.Tree.resolve_eq_of_opened hopened'
        have hjoined : joined = File.joinPath (File.parent path) reference := by
          rw [htext] at heq
          exact (File.Path.text.inj (Location.file.inj heq)).symm
        have htarget' := File.Tree.resolve_eq_of_opened hfound
        rw [hjoined] at htarget'
        have hsame := hwork.resolve_joinPath hresolve hresolve' hentry htarget' hfile
        refine ⟨file (File.joinPath (File.parent path') reference), rfl, ?_⟩
        rw [htext]
        exact (File.Tree.place_of_resolve hsame).trans (File.Tree.place_of_resolve htarget').symm
      · rw [htext] at heq
        cases heq
    · refine ⟨target, ?_, rfl⟩
      rw [← hjoin, resolve, resolve, hrender]

/-- What is read at a place is read at a location that leads there and passes for nothing else. -/
theorem root?_of_place_eq (hwork : tree.WorksInside)
    (hroot : location.root? doctypes tree = some root)
    (hplace : location'.place tree = location.place tree) (hproper' : location'.IsProper)
    (hfair' : location'.Fair tree) : location'.root? doctypes tree = some root := by
  rcases exists_of_root? hroot with ⟨path, canonical, text, rfl, hopened, -⟩ | ⟨address, rfl, hweb⟩
  · have hresolve := File.Tree.resolve_eq_of_opened hopened
    have hown : (file path).place tree = File.Tree.render canonical :=
      File.Tree.place_of_resolve hresolve
    match location' with
    | file (.text path') =>
      have hresolve' := hwork.resolve_of_place_eq hresolve hplace
      have hopened' : tree.opened path' = .ok canonical := by
        rcases hfair' with hshort | hnowhere
        · rw [File.Tree.opened_eq_resolve hshort, hresolve']
        · exact absurd hresolve' (hnowhere canonical)
      exact (root?_of_opened_eq (hopened'.trans hopened.symm)).trans hroot
    | file (.octets octets undecodable) =>
      have hwritten : (File.Path.octets octets undecodable).display = File.Tree.render canonical :=
        hplace.trans hown
      refine absurd ?_ (hfair' canonical)
      rw [hwritten]
      exact (hwork.holds_of_resolve hresolve).resolve_render
    | url address' => exact absurd (hplace.trans hown) (render_ne_render hproper' canonical)
  · match location' with
    | file (.text path') =>
      have hwritten : tree.place path' = address.render := hplace
      cases hresolve : tree.resolve path' with
      | ok canonical =>
        rw [File.Tree.place_of_resolve hresolve] at hwritten
        exact absurd hwritten.symm (ne_render_of_isOfWeb hweb canonical)
      | error cause =>
        rw [File.Tree.place_of_resolve_error hresolve] at hwritten
        exact absurd hwritten (hproper'.display_ne hweb)
    | file (.octets octets undecodable) => exact absurd hplace (hproper'.display_ne hweb)
    | url address' => exact root?_of_render_eq hplace hroot

/-! ## What locations are known by -/

/-- **A location that passes for nothing else** and is known by what a document is known by leads to
the place of the document. -/
theorem place_eq_of_identity_eq (hwork : tree.WorksInside)
    (hroot : location.root? doctypes tree = some root) (hproper : location.IsProper)
    (hidentity : location'.identity tree = location.identity tree)
    (hproper' : location'.IsProper) (hfair' : location'.Fair tree) :
    location'.place tree = location.place tree := by
  rcases exists_of_root? hroot with ⟨path, canonical, text, rfl, hopened, -⟩ | ⟨address, rfl, hweb⟩
  · have hresolve := File.Tree.resolve_eq_of_opened hopened
    -- What the document is known by is a path that leads to it.
    have hown : tree.resolve (tree.identity path) = .ok canonical :=
      hwork.resolve_of_place_eq hresolve (hwork.place_identity path)
    match location' with
    | file (.text path') => exact hwork.place_eq_of_identity_eq hidentity
    | file (.octets octets undecodable) =>
      have hwritten : (File.Path.octets octets undecodable).display = tree.identity path :=
        hidentity
      exact absurd (hwritten ▸ hown) (hfair' canonical)
    | url address' =>
      have hwritten : address'.render = tree.identity path := hidentity
      rw [← hwritten] at hown
      rcases hfair' with hlooks | hnowhere
      · rcases File.Tree.identity_eq_place_or_self tree path with heq | heq
        · rw [heq, File.Tree.place_of_resolve hresolve] at hwritten
          exact absurd hwritten (render_ne_render hproper' canonical)
        · rw [heq] at hwritten
          have habsolute : File.isAbsolute path = true := by
            rcases hproper with habsolute | hplain
            · exact habsolute
            · rw [hwritten] at hlooks
              exact absurd (hlooks.symm.trans hplain) (by decide)
          obtain ⟨rest, hrest⟩ := File.isAbsolute_iff.1 habsolute
          refine absurd ?_ (Url.HasScheme.head?_render_ne hproper')
          rw [hwritten, hrest]
          rfl
      · exact absurd hown (hnowhere canonical)
  · have hwritten : location'.identity tree = address.render := hidentity
    match location' with
    | file (.text path') =>
      rcases File.Tree.identity_eq_place_or_self tree path' with heq | heq
      · exact heq.symm.trans hwritten
      · exact absurd (heq.symm.trans hwritten) (hproper'.display_ne hweb)
    | file (.octets octets undecodable) => exact absurd hwritten (hproper'.display_ne hweb)
    | url address' => exact hwritten

/-- **So what is read at a location is told by what it is known by.** -/
theorem root?_of_identity_eq (hwork : tree.WorksInside)
    (hroot : location.root? doctypes tree = some root) (hproper : location.IsProper)
    (hidentity : location'.identity tree = location.identity tree)
    (hproper' : location'.IsProper) (hfair' : location'.Fair tree) :
    location'.root? doctypes tree = some root := by
  have hplace := place_eq_of_identity_eq hwork hroot hproper hidentity hproper' hfair'
  exact root?_of_place_eq hwork hroot hplace hproper' hfair'

/-- What is read is known by what it is written like. -/
theorem identity_eq_of_display_eq (hroot : location.root? doctypes tree = some root)
    (hproper : location.IsProper) (hroot' : location'.root? doctypes tree = some root')
    (hproper' : location'.IsProper) (h : location.display = location'.display) :
    location.identity tree = location'.identity tree := by
  rcases exists_of_root? hroot with ⟨path, -, -, rfl, -, -⟩ | ⟨address, rfl, hweb⟩
  · rcases exists_of_root? hroot' with ⟨path', -, -, rfl, -, -⟩ | ⟨address', rfl, hweb'⟩
    · exact congrArg tree.identity h
    · exact absurd h (hproper.display_ne hweb')
  · rcases exists_of_root? hroot' with ⟨path', -, -, rfl, -, -⟩ | ⟨address', rfl, -⟩
    · exact absurd h.symm (hproper'.display_ne hweb)
    · exact h

/-- A location is known by the place that it leads to. A path is not if the canonical path of what
is there cannot be worked out. -/
def IsKnownByPlace (tree : File.Tree) (location : Location) : Prop :=
  location.identity tree = location.place tree

instance (tree : File.Tree) (location : Location) : Decidable (location.IsKnownByPlace tree) :=
  inferInstanceAs (Decidable (_ = _))

/-- In a shallow tree every location is. -/
theorem isKnownByPlace_of_isShallow (h : tree.IsShallow) (location : Location) :
    location.IsKnownByPlace tree := by
  match location with
  | file (.text path) => exact h.identity_eq_place path
  | file (.octets _ _) => rfl
  | url _ => rfl

/-- Locations of one place are known by the same, if they are known by the place. -/
theorem identity_eq_of_place_eq (hplace : location'.place tree = location.place tree)
    (h : location.IsKnownByPlace tree) (h' : location'.IsKnownByPlace tree) :
    location'.identity tree = location.identity tree := by
  rw [h, h', hplace]

/-- A detour is a path where the path is one. -/
theorem parse_detour {path : String} (h : looksLikeUrl path = false) (n : Nat) :
    parse (File.detour n path) = .ok (.file (File.detour n path)) := by
  have hplain : looksLikeUrl (File.detour n path) = false := by
    induction n with
    | zero => exact h
    | succ n ih =>
      rw [looksLikeUrl, File.toList_detour_succ]
      simpa [Text.occursIn, List.isPrefixOf, looksLikeUrl] using ih
  simp [parse, hplain]

/-- **Two spellings of one file** that are known apart: what is read is the same, and each is known
by itself, as the canonical path of the file cannot be worked out. -/
theorem deepFile_spellings (doctypes : Bool) (text : String) :
    ∀ spelling ∈ ["a", "./a"],
      parse spelling = .ok (file spelling) ∧
        File.Tree.resolve (.deepFile text) spelling = .ok (File.Tree.deepDirectory ++ ["a"]) ∧
        (file spelling).root? doctypes (.deepFile text)
          = (Xml.Element.parse doctypes text).toOption ∧
        (file spelling).identity (.deepFile text) = spelling := by
  have hdetour : ∀ spelling ∈ ["a", "./a"], ∃ n < 2, spelling = File.detour n "a" := by decide
  intro spelling hmem
  obtain ⟨n, hn, rfl⟩ := hdetour spelling hmem
  obtain ⟨hresolve, hread, hidentity⟩ := File.Tree.deepFile_spelling
    (by rw [File.Tree.maxPath]; omega : 2 * n < File.Tree.maxPath)
  exact ⟨parse_detour (by decide) n, hresolve, root?_of_read hread, hidentity⟩

end Location

end WsdlTypes
