/-!
# Octets of text

A text as the octets of UTF-8, and the reading of any octets as text: each longest
beginning of a character that goes no further stands for one replacement character. Octets
are a text if nothing has to be replaced (`decode?`). The octets of a text are read as the text
again (`decodeOctets_flatMap_octets`), so its characters are found by one pass over its octets
(`chars_eq_toList`).
-/

namespace WsdlTypes.Text

/-- The octets of a character in UTF-8. -/
def octets (c : Char) : List Nat := (String.utf8EncodeChar c).map UInt8.toNat

/-- The character that stands for octets which form none. -/
def replacement : Char := '\ufffd'

/-- Whether an octet continues a character. -/
def continues (b : Nat) : Bool := 0x80 ≤ b && b < 0xc0

/-- The least and greatest second octet after a first octet of three or four. -/
def secondOctet (first : Nat) : Nat × Nat :=
  match first with
  | 0xe0 => (0xa0, 0xbf)
  | 0xed => (0x80, 0x9f)
  | 0xf0 => (0x90, 0xbf)
  | 0xf4 => (0x80, 0x8f)
  | _ => (0x80, 0xbf)

/-- The character at the front, given its first octet, and how many more octets it takes. -/
def decodeFirst (b : Nat) (rest : List Nat) : Char × Nat :=
  let second := secondOctet b
  if b < 0x80 then (Char.ofNat b, 0)
  else if 0xc2 ≤ b && b < 0xe0 then
    match rest with
    | c :: _ =>
      if continues c then (Char.ofNat ((b - 0xc0) * 0x40 + (c - 0x80)), 1) else (replacement, 0)
    | [] => (replacement, 0)
  else if 0xe0 ≤ b && b < 0xf0 then
    match rest with
    -- An octet that does not fit is not taken: it starts the next character.
    | c :: d :: _ =>
      if second.1 ≤ c && c ≤ second.2 then
        if continues d then
          (Char.ofNat ((b - 0xe0) * 0x1000 + (c - 0x80) * 0x40 + (d - 0x80)), 2)
        else (replacement, 1)
      else (replacement, 0)
    | [c] => (replacement, if second.1 ≤ c && c ≤ second.2 then 1 else 0)
    | [] => (replacement, 0)
  else if 0xf0 ≤ b && b < 0xf5 then
    match rest with
    | c :: d :: e :: _ =>
      if second.1 ≤ c && c ≤ second.2 then
        if continues d then
          if continues e then
            (Char.ofNat ((b - 0xf0) * 0x40000 + (c - 0x80) * 0x1000 + (d - 0x80) * 0x40
              + (e - 0x80)), 3)
          else (replacement, 2)
        else (replacement, 1)
      else (replacement, 0)
    | [c, d] =>
      (replacement, if second.1 ≤ c && c ≤ second.2 then (if continues d then 2 else 1) else 0)
    | [c] => (replacement, if second.1 ≤ c && c ≤ second.2 then 1 else 0)
    | [] => (replacement, 0)
  else (replacement, 0)

/-- Octets as text, with a replacement character where they form none. -/
def decodeOctets : List Nat → List Char
  | [] => []
  | b :: rest =>
    (decodeFirst b rest).1 :: decodeOctets (rest.drop (decodeFirst b rest).2)
termination_by bs => bs.length
decreasing_by
  rw [List.length_drop, List.length_cons]
  omega

/-- The text that octets are, if they are one: it has the same octets. -/
def decode? (bs : List Nat) : Option (List Char) :=
  let decoded := decodeOctets bs
  if decoded.flatMap octets = bs then some decoded else none

/-- The characters that octets form, in front of others, the last one first. -/
def decodeOnto (read : List Char) : List Nat → List Char
  | [] => read
  | b :: rest =>
    decodeOnto ((decodeFirst b rest).1 :: read) (rest.drop (decodeFirst b rest).2)
termination_by bs => bs.length
decreasing_by
  rw [List.length_drop, List.length_cons]
  omega

/-- The characters of a text, read from its octets one after the other. An evaluation takes a number
of steps for this that grows with the length of the text, and with its square for `toList`. -/
def chars (text : String) : List Char :=
  (decodeOnto [] (text.toByteArray.data.toList.map UInt8.toNat)).reverse

/-! ## Reading what was written -/

theorem octets_eq (c : Char) :
    octets c =
      if c.toNat ≤ 0x7f then [c.toNat]
      else if c.toNat ≤ 0x7ff then [c.toNat / 0x40 + 0xc0, c.toNat % 0x40 + 0x80]
      else if c.toNat ≤ 0xffff then
        [c.toNat / 0x1000 + 0xe0, c.toNat / 0x40 % 0x40 + 0x80, c.toNat % 0x40 + 0x80]
      else
        [c.toNat / 0x40000 + 0xf0, c.toNat / 0x1000 % 0x40 + 0x80, c.toNat / 0x40 % 0x40 + 0x80,
          c.toNat % 0x40 + 0x80] := by
  have hvalid : c.toNat < 0xd800 ∨ 0xdfff < c.toNat ∧ c.toNat < 0x110000 := c.valid
  have hval : c.val.toNat = c.toNat := rfl
  simp only [octets, String.utf8EncodeChar, hval]
  split
  · simp only [List.map_cons, List.map_nil, UInt8.toNat_ofNat', List.cons.injEq, and_true]
    omega
  split
  · simp only [List.map_cons, List.map_nil, UInt8.toNat_ofNat', List.cons.injEq, and_true]
    omega
  split
  · simp only [List.map_cons, List.map_nil, UInt8.toNat_ofNat', List.cons.injEq, and_true]
    omega
  · simp only [List.map_cons, List.map_nil, UInt8.toNat_ofNat', List.cons.injEq, and_true]
    omega

theorem continues_mod (n : Nat) : continues (n % 0x40 + 0x80) = true := by
  simp only [continues, Bool.and_eq_true, decide_eq_true_eq]
  omega

/-- The second octet of three or four is one that may follow the first: no character is a
surrogate, and none is written with more octets than it takes. -/
theorem secondOctet_fits {n : Nat} (h : n < 0xd800 ∨ 0xdfff < n) :
    (0x7ff < n → n ≤ 0xffff →
        (secondOctet (n / 0x1000 + 0xe0)).1 ≤ n / 0x40 % 0x40 + 0x80 ∧
          n / 0x40 % 0x40 + 0x80 ≤ (secondOctet (n / 0x1000 + 0xe0)).2) ∧
      (0xffff < n → n < 0x110000 →
        (secondOctet (n / 0x40000 + 0xf0)).1 ≤ n / 0x1000 % 0x40 + 0x80 ∧
          n / 0x1000 % 0x40 + 0x80 ≤ (secondOctet (n / 0x40000 + 0xf0)).2) := by
  refine ⟨fun hlow hhigh => ?_, fun hlow hhigh => ?_⟩ <;> unfold secondOctet <;> split <;> omega

/-- **The first character is read from its octets**, whatever follows them. -/
theorem decodeFirst_octets (c : Char) (rest : List Nat) :
    ∃ first more, octets c = first :: more ∧
      decodeFirst first (more ++ rest) = (c, more.length) := by
  have hvalid : c.toNat < 0xd800 ∨ 0xdfff < c.toNat ∧ c.toNat < 0x110000 := c.valid
  obtain ⟨hthree, hfour⟩ := secondOctet_fits (n := c.toNat) (by omega)
  have hc : Char.ofNat c.toNat = c := Char.ofNat_toNat c
  rw [octets_eq]
  split
  case isTrue hle =>
    refine ⟨_, [], rfl, ?_⟩
    have hone : c.toNat < 0x80 := by omega
    simp [decodeFirst, hone, hc]
  split
  case isTrue hle =>
    refine ⟨_, [_], rfl, ?_⟩
    have hmany : ¬c.toNat / 0x40 + 0xc0 < 0x80 := by omega
    have htwo : 0xc2 ≤ c.toNat / 0x40 + 0xc0 ∧ c.toNat / 0x40 + 0xc0 < 0xe0 := by omega
    have hsum : c.toNat / 0x40 * 0x40 + c.toNat % 0x40 = c.toNat := by omega
    simp [decodeFirst, hmany, htwo, continues_mod, hsum, hc]
  split
  case isTrue hle =>
    refine ⟨_, [_, _], rfl, ?_⟩
    have hmany : ¬c.toNat / 0x1000 + 0xe0 < 0x80 := by omega
    have hmore : ¬c.toNat / 0x1000 + 0xe0 < 0xe0 := by omega
    have hlast : c.toNat / 0x1000 + 0xe0 < 0xf0 := by omega
    have hsum : c.toNat / 0x1000 * 0x1000 + c.toNat / 0x40 % 0x40 * 0x40 + c.toNat % 0x40
        = c.toNat := by omega
    simp [decodeFirst, hmany, hmore, hlast, hthree (by omega) hle, continues_mod, hsum, hc]
  case isFalse hgt =>
    refine ⟨_, [_, _, _], rfl, ?_⟩
    have hmany : ¬c.toNat / 0x40000 + 0xf0 < 0x80 := by omega
    have hmore : ¬c.toNat / 0x40000 + 0xf0 < 0xe0 := by omega
    have hmost : ¬c.toNat / 0x40000 + 0xf0 < 0xf0 := by omega
    have hlast : c.toNat / 0x40000 + 0xf0 < 0xf5 := by omega
    have hsum : c.toNat / 0x40000 * 0x40000 + c.toNat / 0x1000 % 0x40 * 0x1000
        + c.toNat / 0x40 % 0x40 * 0x40 + c.toNat % 0x40 = c.toNat := by omega
    simp [decodeFirst, hmany, hmore, hmost, hlast, hfour (by omega) (by omega), continues_mod,
      hsum, hc]

/-- **The octets of characters are read as these characters.** -/
theorem decodeOctets_flatMap_octets (cs : List Char) : decodeOctets (cs.flatMap octets) = cs := by
  induction cs with
  | nil => rw [List.flatMap_nil, decodeOctets]
  | cons c rest ih =>
    obtain ⟨first, more, hoctets, hfirst⟩ := decodeFirst_octets c (rest.flatMap octets)
    rw [List.flatMap_cons, hoctets, List.cons_append, decodeOctets, hfirst, List.drop_left, ih]

theorem decodeOnto_eq (read : List Char) (bs : List Nat) :
    decodeOnto read bs = (decodeOctets bs).reverse ++ read := by
  induction read, bs using decodeOnto.induct with
  | case1 read => rw [decodeOnto, decodeOctets, List.reverse_nil, List.nil_append]
  | case2 read b rest ih =>
    rw [decodeOnto, ih, decodeOctets, List.reverse_cons, List.append_assoc]
    rfl

/-- **The characters of a text** are those that it is a list of. -/
theorem chars_eq_toList (text : String) : chars text = text.toList := by
  have hbytes : text.toByteArray.data.toList = text.toList.flatMap String.utf8EncodeChar := by
    rw [← String.utf8Encode_toList, List.utf8Encode, List.data_toByteArray]
  rw [chars, decodeOnto_eq, List.append_nil, List.reverse_reverse, hbytes, List.map_flatMap]
  exact decodeOctets_flatMap_octets text.toList

end WsdlTypes.Text
