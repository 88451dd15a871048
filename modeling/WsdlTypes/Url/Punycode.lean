import WsdlTypes.Text.Ranges
/-!
# Names beyond ASCII as letters and digits

The writing of a text with arbitrary characters in the letters, digits and hyphens that a
domain name takes. The ASCII characters come first; the others follow, in the order of
their code points, as differences in a number system of base 36 whose digits adapt to the
numbers before them.
-/

namespace WsdlTypes.Url.Punycode

/-- The base of the number system. -/
def base : Nat := 36

/-- Where the bias starts. -/
def firstBias : Nat := 72

/-- The digit of a value below the base. -/
def digit (n : Nat) : Char := if n < 26 then Char.ofNat (0x61 + n) else Char.ofNat (0x16 + n)

/-- The value of a digit of either case. -/
def digitValue? (c : Char) : Option Nat :=
  if 'a' ≤ c && c ≤ 'z' then some (c.toNat - 0x61)
  else if 'A' ≤ c && c ≤ 'Z' then some (c.toNat - 0x41)
  else if c.isDigit then some (c.toNat - 0x16)
  else none

/-- The least value that does not end a number, for a digit at a weight. -/
def threshold (k bias : Nat) : Nat := if k ≤ bias then 1 else min 26 (k - bias)

theorem threshold_pos (k bias : Nat) : 1 ≤ threshold k bias := by
  unfold threshold; split <;> omega

/-- Scales a difference down until it is small. -/
def scale (delta k : Nat) : Nat × Nat :=
  if 455 < delta then scale (delta / 35) (k + base) else (delta, k)
termination_by delta
decreasing_by omega

/-- The bias behind a difference that brought the number of characters to a count. -/
def adapt (delta count : Nat) (isFirst : Bool) : Nat :=
  -- The first difference is far larger than those that follow.
  let damped := if isFirst then delta / 700 else delta / 2
  let (small, k) := scale (damped + damped / count) 0
  k + 36 * small / (small + 38)

/-- The digits of a difference. -/
def digits (bias k q : Nat) : List Char :=
  let t := threshold k bias
  if q < t then [digit q]
  else digit (t + (q - t) % (base - t)) :: digits bias (k + base) ((q - t) / (base - t))
termination_by q
decreasing_by
  have h₁ := threshold_pos k bias
  exact Nat.lt_of_le_of_lt (Nat.div_le_self _ _) (by omega)

/-- A writing that has come to some code point. -/
structure Progress where
  written : List Char
  delta : Nat
  bias : Nat
  handled : Nat

/-- Passes over one character of the text for the sake of a code point. -/
def Progress.pass (basic n : Nat) (s : Progress) (c : Char) : Progress :=
  if c.toNat < n then { s with delta := s.delta + 1 }
  else if c.toNat = n then
    { written := s.written ++ digits s.bias base s.delta
      delta := 0
      bias := adapt s.delta (s.handled + 1) (s.handled = basic)
      handled := s.handled + 1 }
  else s

/-- Writes the characters of the given code points, in ascending order, behind those up to
`n`. -/
def encodeFrom (cs : List Char) (basic n : Nat) (s : Progress) : List Nat → List Char
  | [] => s.written
  | m :: later =>
    -- Going up by one code point passes over every place for it.
    let s := { s with delta := s.delta + (m - n) * (s.handled + 1) }
    let s := cs.foldl (Progress.pass basic m) s
    encodeFrom cs basic (m + 1) { s with delta := s.delta + 1 } later

/-- The text in letters, digits and hyphens. -/
def encode (cs : List Char) : List Char :=
  let ascii := cs.filter fun c => c.toNat < 0x80
  let others := ((cs.map Char.toNat).filter (0x80 ≤ ·)).mergeSort.eraseDups
  let front := if ascii.isEmpty then [] else ascii ++ ['-']
  front ++ encodeFrom cs ascii.length 0x80 ⟨[], 0, firstBias, ascii.length⟩ others

/-- Reads one number: the sum of its digits by their weights, and the rest. -/
def readNumber? (bias : Nat) : List Char → Nat → Nat → Nat → Option (Nat × List Char)
  | [], _, _, _ => none
  | c :: rest, k, weight, sum =>
    match digitValue? c with
    | none => none
    | some d =>
      let t := threshold k bias
      if d < t then some (sum + d * weight, rest)
      else readNumber? bias rest (k + base) (weight * (base - t)) (sum + d * weight)

theorem length_readNumber? {bias : Nat} {cs : List Char} {k weight sum : Nat}
    {r : Nat × List Char} (h : readNumber? bias cs k weight sum = some r) :
    r.2.length < cs.length := by
  induction cs generalizing k weight sum with
  | nil => simp [readNumber?] at h
  | cons c rest ih =>
    simp only [readNumber?] at h
    split at h
    · cases h
    · split at h
      · cases h; simp
      · have := ih h
        simp only [List.length_cons]
        omega

/-- Reads the characters that follow those that are there. -/
def decodeFrom (bias n i : Nat) (out : List Char) (cs : List Char) : Option (List Char) :=
  if cs.isEmpty then some out
  else
    match _h : readNumber? bias cs base 1 i with
    | none => none
    | some (sum, rest) =>
      let count := out.length + 1
      let m := n + sum / count
      if m.isValidChar then
        decodeFrom (adapt (sum - i) count (i = 0)) m (sum % count + 1)
          (out.insertIdx (sum % count) (Char.ofNat m)) rest
      else none
termination_by cs.length
decreasing_by exact length_readNumber? _h

/-- The text that letters, digits and hyphens write. The last hyphen ends the characters of
ASCII, of which there is at least one in front of it. -/
def decode? (cs : List Char) : Option (List Char) :=
  let reversed := cs.reverse
  let tail := (reversed.takeWhile (· ≠ '-')).reverse
  let ascii := ((reversed.dropWhile (· ≠ '-')).drop 1).reverse
  if ascii.isEmpty && cs.contains '-' then none
  else if ascii.all fun c => c.toNat < 0x80 then decodeFrom firstBias 0x80 0 ascii tail
  else none

end WsdlTypes.Url.Punycode
