import WsdlTypes.Download
import WsdlTypes.Url.Parse
/-!
# Schemes of URLs

A URL has the scheme that its text names, the one of its base, or `file`, and none of these begins
with a slash (`hasScheme_parse?`). So no URL is written like the path of a file
(`HasScheme.head?_render_ne`).
-/

namespace WsdlTypes.Url

/-- The scheme does not begin with a slash. -/
def HasScheme (url : Url) : Prop := url.scheme.toList.head? ≠ some '/'

variable {base url : Url} {base? : Option Url} {scheme text : String} {parts : Parts}
variable {cs rest : List Char}

theorem HasScheme.of_scheme_eq (h : base.HasScheme) (heq : url.scheme = base.scheme) :
    url.HasScheme := by
  rw [HasScheme, heq]
  exact h

theorem hasScheme_of_file (h : url.scheme = "file") : url.HasScheme := by
  rw [HasScheme, h]
  decide

/-- No letter becomes a slash. -/
theorem toLower_ne_slash {c : Char} (h : c.isAlpha = true) : c.toLower ≠ '/' := by
  intro hslash
  unfold Char.toLower at hslash
  split at hslash
  · rename_i hupper
    have hval := congrArg (fun d : Char => d.val.toNat) hslash
    simp only [ge_iff_le, UInt32.le_iff_toNat_le] at hupper
    simp only [UInt32.toNat_add] at hval
    have hfirst : 'A'.val.toNat = 65 := rfl
    have hlast : 'Z'.val.toNat = 90 := rfl
    have hshift : ('a'.val - 'A'.val).toNat = 32 := rfl
    have hmark : '/'.val.toNat = 47 := rfl
    omega
  · rw [hslash] at h
    exact absurd h (by decide)

/-- A scheme that a text names begins with a letter. -/
theorem hasScheme_of_scheme? (h : scheme? cs = some (scheme, rest)) :
    scheme.toList.head? ≠ some '/' := by
  simp only [scheme?] at h
  split at h
  · split at h
    · rename_i halpha
      rw [← (Prod.mk.inj (Option.some.inj h)).1, String.toList_ofList, List.map_cons,
        List.head?_cons]
      exact fun heq => toLower_ne_slash halpha (Option.some.inj heq)
    · cases h
  · cases h

/-! ## What the scheme is -/

theorem scheme_sameDocument : (sameDocument base parts).scheme = base.scheme := by
  unfold sameDocument
  split <;> rfl

theorem scheme_behindSlashes? (h : behindSlashes? scheme parts = some url) :
    url.scheme = scheme := by
  unfold behindSlashes? at h
  simp only [Option.bind_eq_bind, Option.pure_def] at h
  split at h
  · cases h
  · split at h
    · cases h
    · -- The host is read in one of two ways.
      split at h <;>
      · obtain ⟨host, -, h⟩ := Option.bind_eq_some_iff.1 h
        obtain ⟨port, -, h⟩ := Option.bind_eq_some_iff.1 h
        rw [← Option.some.inj h]
        rfl

theorem scheme_fileBehindSlashes? (h : fileBehindSlashes? parts = some url) :
    url.scheme = "file" := by
  unfold fileBehindSlashes? at h
  simp only [Option.bind_eq_bind, Option.pure_def] at h
  split at h
  · rw [← Option.some.inj h]
    rfl
  · split at h <;>
    · obtain ⟨host, -, h⟩ := Option.bind_eq_some_iff.1 h
      split at h <;>
      · rw [← Option.some.inj h]
        rfl

theorem scheme_relative? (h : relative? base parts = some url) : url.scheme = base.scheme := by
  simp only [relative?] at h
  split at h
  · exact scheme_behindSlashes? h
  · split at h
    · rw [← Option.some.inj h]
      rfl
    · split at h
      · rw [← Option.some.inj h]
        exact scheme_sameDocument
      · rw [← Option.some.inj h]
        rfl

section

variable (hbase : ∀ base ∈ base?, base.HasScheme)

include hbase

theorem hasScheme_fileRelative? (h : fileRelative? base? parts = some url) : url.HasScheme := by
  have hown : (base?.getD { scheme := "file", path := "/" }).HasScheme := by
    cases base? with
    | none => exact hasScheme_of_file rfl
    | some base => exact hbase base rfl
  simp only [fileRelative?] at h
  split at h
  · exact hasScheme_of_file (scheme_fileBehindSlashes? h)
  · split at h
    · rw [← Option.some.inj h]
      exact hasScheme_of_file rfl
    · split at h
      · rw [← Option.some.inj h]
        exact hown.of_scheme_eq scheme_sameDocument
      · split at h
        · rw [← Option.some.inj h]
          exact hasScheme_of_file rfl
        · rw [← Option.some.inj h]
          exact hown.of_scheme_eq rfl

theorem hasScheme_behindScheme? (hscheme : scheme.toList.head? ≠ some '/')
    (h : behindScheme? base? scheme parts = some url) : url.HasScheme := by
  have hsame : ∀ base ∈ base?.filter fun url => url.scheme == scheme, base.HasScheme :=
    fun base hmem => hbase base (Option.filter_eq_some_iff.1 hmem).1
  simp only [behindScheme?] at h
  split at h
  · exact hasScheme_fileRelative? hsame h
  · split at h
    · split at h
      · rename_i base heq
        split at h
        · exact (hsame base heq).of_scheme_eq (scheme_relative? h)
        · rwa [HasScheme, scheme_behindSlashes? h]
      · rwa [HasScheme, scheme_behindSlashes? h]
    · split at h
      · rwa [HasScheme, scheme_behindSlashes? h]
      · split at h <;>
        · rw [← Option.some.inj h]
          exact hscheme

/-- **The scheme of a URL does not begin with a slash**, if that of its base does not. -/
theorem hasScheme_parse? (h : parse? base? text = some url) : url.HasScheme := by
  simp only [parse?] at h
  split at h
  · rename_i hnamed
    exact hasScheme_behindScheme? hbase (hasScheme_of_scheme? hnamed) h
  · obtain ⟨base, hmem, h⟩ := Option.bind_eq_some_iff.1 h
    have hown : base.HasScheme := hbase base hmem
    split at h
    · split at h
      · rw [← Option.some.inj h]
        exact hown.of_scheme_eq scheme_sameDocument
      · cases h
    · split at h
      · exact hasScheme_fileRelative? (fun base' hmem' => by
          rw [← Option.some.inj hmem']
          exact hown) h
      · exact hown.of_scheme_eq (scheme_relative? h)

end

/-- **No URL is written like a path from the root.** -/
theorem HasScheme.head?_render_ne (h : url.HasScheme) : url.render.toList.head? ≠ some '/' := by
  rw [HasScheme] at h
  simp only [render, String.toList_append]
  cases hscheme : url.scheme.toList with
  | nil => simp
  | cons c rest =>
    rw [hscheme] at h
    simpa using h

end WsdlTypes.Url
