/-!
# How many texts there are

There are only so many texts of a length: each of them is a number below a bound
(`numeral_lt`), and no two are the same one (`numeral_inj`). So a list in which no text comes
twice holds no more short texts than there are (`length_shortOnes_le`).
-/

namespace WsdlTypes.Text

/-- The base of numbers whose digits are characters. No character is the digit zero. -/
def base : Nat := 0x110001

/-- A text as a number. -/
def numeral : List Char → Nat
  | [] => 0
  | c :: rest => c.toNat + 1 + base * numeral rest

theorem toNat_lt_base (c : Char) : c.toNat + 1 < base := by
  have hvalid := c.valid
  simp only [UInt32.isValidChar, Nat.isValidChar] at hvalid
  have hval : c.toNat = c.val.toNat := rfl
  rw [base]
  omega

/-- A bound on the number of texts of so many octets at most. -/
def bound (size : Nat) : Nat := Nat.pow base size

theorem bound_succ (size : Nat) : bound (size + 1) = base * bound size := Nat.mul_comm _ _

theorem bound_le_bound {size size' : Nat} (h : size ≤ size') : bound size ≤ bound size' :=
  Nat.pow_le_pow_right (by decide) h

/-- A text of some characters is less than the bound of their number. -/
theorem numeral_lt (cs : List Char) : numeral cs < bound cs.length := by
  induction cs with
  | nil => exact Nat.one_pos
  | cons c rest ih =>
    have hdigit := toNat_lt_base c
    have hrest : base * (numeral rest + 1) ≤ base * bound rest.length :=
      Nat.mul_le_mul_left base ih
    rw [Nat.mul_add, Nat.mul_one] at hrest
    rw [numeral, List.length_cons, bound_succ]
    omega

/-- Texts with the same number are the same. -/
theorem numeral_inj {cs ds : List Char} (h : numeral cs = numeral ds) : cs = ds := by
  induction cs generalizing ds with
  | nil =>
    cases ds with
    | nil => rfl
    | cons d ds =>
      rw [numeral, numeral] at h
      omega
  | cons c cs ih =>
    cases ds with
    | nil =>
      rw [numeral, numeral] at h
      omega
    | cons d ds =>
      have hc := toNat_lt_base c
      have hd := toNat_lt_base d
      rw [numeral, numeral] at h
      -- The first digits are what is left over, the others how often the base goes in.
      have hmod := congrArg (· % base) h
      have hdiv := congrArg (· / base) h
      simp only [Nat.add_mul_mod_self_left, Nat.mod_eq_of_lt hc, Nat.mod_eq_of_lt hd] at hmod
      have hpos : 0 < base := by decide
      simp only [Nat.add_mul_div_left _ _ hpos, Nat.div_eq_of_lt hc, Nat.div_eq_of_lt hd,
        Nat.zero_add] at hdiv
      rw [Char.toNat_inj.1 (Nat.succ.inj hmod), ih hdiv]

/-- The texts of so many octets at most that are in a list, each once. -/
def shortOnes (size : Nat) : List String → List String
  | [] => []
  | text :: rest =>
    if text.utf8ByteSize ≤ size ∧ text ∉ rest then text :: shortOnes size rest
    else shortOnes size rest

section

variable {size : Nat} {text : String} {texts : List String}

theorem mem_shortOnes_iff :
    text ∈ shortOnes size texts ↔ text ∈ texts ∧ text.utf8ByteSize ≤ size := by
  induction texts with
  | nil => simp [shortOnes]
  | cons first rest ih =>
    rw [shortOnes]
    by_cases hfirst : first.utf8ByteSize ≤ size ∧ first ∉ rest
    · rw [if_pos hfirst, List.mem_cons, ih, List.mem_cons]
      constructor
      · rintro (rfl | ⟨hmem, hsize⟩)
        · exact ⟨Or.inl rfl, hfirst.1⟩
        · exact ⟨Or.inr hmem, hsize⟩
      · rintro ⟨rfl | hmem, hsize⟩
        · exact Or.inl rfl
        · exact Or.inr ⟨hmem, hsize⟩
    · rw [if_neg hfirst, ih, List.mem_cons]
      constructor
      · exact fun h => ⟨Or.inr h.1, h.2⟩
      · rintro ⟨rfl | hmem, hsize⟩
        -- The text is long, or comes once more behind.
        · exact ⟨Decidable.not_not.1 fun hnew => hfirst ⟨hsize, hnew⟩, hsize⟩
        · exact ⟨hmem, hsize⟩

theorem nodup_shortOnes : (shortOnes size texts).Nodup := by
  induction texts with
  | nil => exact List.nodup_nil
  | cons first rest ih =>
    rw [shortOnes]
    split
    · rename_i hfirst
      exact List.nodup_cons.2 ⟨fun hmem => hfirst.2 (mem_shortOnes_iff.1 hmem).1, ih⟩
    · exact ih

/-- A short text that is new counts. -/
theorem shortOnes_cons (hsize : text.utf8ByteSize ≤ size) (hnew : text ∉ texts) :
    shortOnes size (text :: texts) = text :: shortOnes size texts := by
  rw [shortOnes, if_pos ⟨hsize, hnew⟩]

/-- Of more texts no fewer are short. -/
theorem length_shortOnes_le_of_subset {texts' : List String} (h : texts ⊆ texts') :
    (shortOnes size texts).length ≤ (shortOnes size texts').length := by
  refine nodup_shortOnes.length_le_of_subset fun text hmem => ?_
  obtain ⟨hold, hsize⟩ := mem_shortOnes_iff.1 hmem
  exact mem_shortOnes_iff.2 ⟨h hold, hsize⟩

/-- A text has no more characters than octets. -/
theorem length_toList_le (text : String) : text.toList.length ≤ text.utf8ByteSize := by
  have hall : ∀ cs : List Char, cs.length ≤ (String.ofList cs).utf8ByteSize := by
    intro cs
    induction cs with
    | nil => exact Nat.zero_le _
    | cons c rest ih =>
      have hpos := c.utf8Size_pos
      rw [String.ofList_cons, String.utf8ByteSize_append, String.utf8ByteSize_singleton,
        List.length_cons]
      omega
  have hlength := hall text.toList
  rwa [String.ofList_toList] at hlength

/-- **There are no more short texts** than the bound. -/
theorem length_shortOnes_le : (shortOnes size texts).length ≤ bound size := by
  let numbers := (shortOnes size texts).map fun text => numeral text.toList
  have hnodup : numbers.Nodup := by
    refine List.pairwise_map.2 (nodup_shortOnes.imp fun hne heq => hne ?_)
    exact String.toList_inj.1 (numeral_inj heq)
  have hsubset : numbers ⊆ List.range (bound size) := by
    intro n hn
    obtain ⟨text, hmem, rfl⟩ := List.mem_map.1 hn
    have hsize := (mem_shortOnes_iff.1 hmem).2
    have hlength := length_toList_le text
    have hle : bound text.toList.length ≤ bound size :=
      bound_le_bound (Nat.le_trans hlength hsize)
    exact List.mem_range.2 (Nat.lt_of_lt_of_le (numeral_lt text.toList) hle)
  have hlength := hnodup.length_le_of_subset hsubset
  rwa [List.length_map, List.length_range] at hlength

end

end WsdlTypes.Text
