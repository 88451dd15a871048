/-!
# Maps in key order

A finite map kept as its entries in strictly ascending order of their keys. The order is
part of the type, so a map has one representation: two maps that answer every lookup
alike are equal (`SortedMap.ext_get?`). `get?` is the view through which the operations
are described; `get?_insert` says what the one that changes a map does to it.
-/

namespace WsdlTypes

/-- A strict order in which any two different elements are comparable. -/
class StrictOrder (κ : Type) [LT κ] : Prop where
  irrefl : ∀ a : κ, ¬ a < a
  trans : ∀ {a b c : κ}, a < b → b < c → a < c
  connected : ∀ {a b : κ}, ¬ a < b → ¬ b < a → a = b

instance : StrictOrder String where
  irrefl := String.lt_irrefl
  trans := String.lt_trans
  connected := fun h₁ h₂ => String.le_antisymm (String.not_lt.1 h₂) (String.not_lt.1 h₁)

/-- Entries in strictly ascending order of their keys. -/
structure SortedMap (κ ν : Type) [LT κ] where
  entries : List (κ × ν)
  sorted : entries.Pairwise fun a b => a.1 < b.1

namespace SortedMap

variable {κ ν : Type} [LT κ]

instance [DecidableEq κ] [DecidableEq ν] : DecidableEq (SortedMap κ ν) := fun a b =>
  decidable_of_iff (a.entries = b.entries)
    ⟨fun h => by cases a; cases b; cases h; rfl, fun h => h ▸ rfl⟩

instance [Repr κ] [Repr ν] : Repr (SortedMap κ ν) := ⟨fun m n => reprPrec m.entries n⟩

/-- The map without entries. -/
def empty : SortedMap κ ν := ⟨[], List.Pairwise.nil⟩

instance : Inhabited (SortedMap κ ν) := ⟨empty⟩

/-- The keys, in order. -/
def keys (m : SortedMap κ ν) : List κ := m.entries.map Prod.fst

/-- The values, in the order of their keys. -/
def values (m : SortedMap κ ν) : List ν := m.entries.map Prod.snd

/-- The number of entries. -/
def size (m : SortedMap κ ν) : Nat := m.entries.length

variable [DecidableEq κ]

/-- The value under a key. -/
def get? (m : SortedMap κ ν) (k : κ) : Option ν :=
  (m.entries.find? fun entry => entry.1 = k).map Prod.snd

/-- Whether there is a value under a key. -/
def contains (m : SortedMap κ ν) (k : κ) : Bool := (m.get? k).isSome

variable [DecidableLT κ]

/-- Entries with a value put under a key, in place of the one that is there. -/
def insertEntry (k : κ) (v : ν) : List (κ × ν) → List (κ × ν)
  | [] => [(k, v)]
  | entry :: rest =>
    if k < entry.1 then (k, v) :: entry :: rest
    else if k = entry.1 then (k, v) :: rest
    else entry :: insertEntry k v rest

theorem mem_insertEntry {k : κ} {v : ν} {l : List (κ × ν)} {a : κ × ν}
    (h : a ∈ insertEntry k v l) : a = (k, v) ∨ a ∈ l := by
  induction l with
  | nil => simpa [insertEntry] using h
  | cons entry rest ih =>
    simp only [insertEntry] at h
    split at h
    · simpa using h
    · split at h
      · rcases List.mem_cons.1 h with h | h
        · exact Or.inl h
        · exact Or.inr (List.mem_cons_of_mem _ h)
      · rcases List.mem_cons.1 h with h | h
        · exact Or.inr (h ▸ List.mem_cons_self)
        · exact (ih h).imp id (List.mem_cons_of_mem _)

variable [StrictOrder κ]

theorem sorted_insertEntry {k : κ} {v : ν} {l : List (κ × ν)}
    (h : l.Pairwise fun a b => a.1 < b.1) :
    (insertEntry k v l).Pairwise fun a b => a.1 < b.1 := by
  induction l with
  | nil => simp [insertEntry]
  | cons entry rest ih =>
    obtain ⟨hfirst, hrest⟩ := List.pairwise_cons.1 h
    simp only [insertEntry]
    split
    · rename_i hlt
      refine List.pairwise_cons.2 ⟨fun a ha => ?_, h⟩
      rcases List.mem_cons.1 ha with rfl | ha
      · exact hlt
      · exact StrictOrder.trans hlt (hfirst a ha)
    · rename_i hnlt
      split
      · rename_i heq
        exact List.pairwise_cons.2 ⟨fun a ha => heq ▸ hfirst a ha, hrest⟩
      · rename_i hne
        refine List.pairwise_cons.2 ⟨fun a ha => ?_, ih hrest⟩
        rcases mem_insertEntry ha with rfl | ha
        · exact Decidable.byContradiction fun hn => hne (StrictOrder.connected hnlt hn)
        · exact hfirst a ha

/-- The map with a value under a key, in place of the one that is there. -/
def insert (m : SortedMap κ ν) (k : κ) (v : ν) : SortedMap κ ν :=
  ⟨insertEntry k v m.entries, sorted_insertEntry m.sorted⟩

omit [DecidableLT κ] [StrictOrder κ] in
@[simp] theorem get?_empty (k : κ) : (empty : SortedMap κ ν).get? k = none := rfl

/-- Insertion changes the answer for its key alone. -/
theorem get?_insert (m : SortedMap κ ν) (k k' : κ) (v : ν) :
    (m.insert k v).get? k' = if k = k' then some v else m.get? k' := by
  obtain ⟨l, h⟩ := m
  simp only [get?, insert]
  induction l with
  | nil => by_cases e : k = k' <;> simp [insertEntry, e]
  | cons entry rest ih =>
    obtain ⟨-, hrest⟩ := List.pairwise_cons.1 h
    simp only [insertEntry]
    split
    · by_cases e : k = k' <;> simp [e]
    · split
      · rename_i heq
        by_cases e : k = k' <;> simp [e, ← heq]
      · rename_i hne
        by_cases e : entry.1 = k'
        · have : k ≠ k' := fun h => hne (h.trans e.symm)
          simp [e, this]
        · simpa [e] using ih hrest

omit [DecidableLT κ] in
/-- A key has a value when an entry pairs the two. -/
theorem get?_eq_some_iff {m : SortedMap κ ν} {k : κ} {v : ν} :
    m.get? k = some v ↔ (k, v) ∈ m.entries := by
  obtain ⟨l, h⟩ := m
  simp only [get?]
  induction l with
  | nil => simp
  | cons entry rest ih =>
    obtain ⟨hfirst, hrest⟩ := List.pairwise_cons.1 h
    by_cases e : entry.1 = k
    · subst e
      simp only [decide_true, List.find?_cons_of_pos, Option.map_some, Option.some.injEq,
        List.mem_cons]
      constructor
      · rintro rfl; exact Or.inl rfl
      · rintro (he | he)
        · exact (congrArg Prod.snd he).symm
        · exact absurd (hfirst _ he) (StrictOrder.irrefl _)
    · rw [List.find?_cons_of_neg (by simpa using e)]
      rw [ih hrest]
      simp only [List.mem_cons]
      exact ⟨Or.inr, fun he => he.resolve_left fun he => e (congrArg Prod.fst he).symm⟩

omit [DecidableLT κ] in
/-- A key has a value when it is one of the keys. -/
theorem contains_iff {m : SortedMap κ ν} {k : κ} : m.contains k = true ↔ k ∈ m.keys := by
  simp only [contains, Option.isSome_iff_exists, get?_eq_some_iff, keys, List.mem_map,
    Prod.exists, exists_and_right, exists_eq_right]

omit [DecidableLT κ] in
theorem mem_keys_iff {m : SortedMap κ ν} {k : κ} : k ∈ m.keys ↔ ∃ v, m.get? k = some v := by
  rw [← contains_iff, contains, Option.isSome_iff_exists]

omit [DecidableLT κ] in
theorem get?_eq_none_iff {m : SortedMap κ ν} {k : κ} : m.get? k = none ↔ k ∉ m.keys := by
  rw [mem_keys_iff, not_exists, Option.eq_none_iff_forall_ne_some]

/-- Insertion adds its key to the keys. -/
theorem mem_keys_insert {m : SortedMap κ ν} {k k' : κ} {v : ν} :
    k' ∈ (m.insert k v).keys ↔ k' = k ∨ k' ∈ m.keys := by
  rw [← contains_iff, contains, get?_insert, mem_keys_iff]
  by_cases e : k = k'
  · simp [e]
  · simp [e, Ne.symm e, Option.isSome_iff_exists]

omit [DecidableEq κ] [DecidableLT κ] in
/-- No key comes twice. -/
theorem nodup_keys (m : SortedMap κ ν) : m.keys.Nodup :=
  List.pairwise_map.2 (m.sorted.imp fun {a b} h (e : a.1 = b.1) =>
    StrictOrder.irrefl b.1 (e ▸ h))

omit [DecidableEq κ] [DecidableLT κ] in
private theorem entries_ext {l l' : List (κ × ν)} (h : l.Pairwise fun a b => a.1 < b.1)
    (h' : l'.Pairwise fun a b => a.1 < b.1) (hmem : ∀ a, a ∈ l ↔ a ∈ l') : l = l' := by
  induction l generalizing l' with
  | nil =>
    cases l' with
    | nil => rfl
    | cons a t => exact absurd ((hmem a).2 List.mem_cons_self) (by simp)
  | cons a t ih =>
    cases l' with
    | nil => exact absurd ((hmem a).1 List.mem_cons_self) (by simp)
    | cons b t' =>
      obtain ⟨ha, ht⟩ := List.pairwise_cons.1 h
      obtain ⟨hb, ht'⟩ := List.pairwise_cons.1 h'
      -- Each head is the least of the same entries.
      have hab : a = b := by
        rcases List.mem_cons.1 ((hmem a).1 List.mem_cons_self) with e | hat'
        · exact e
        · rcases List.mem_cons.1 ((hmem b).2 List.mem_cons_self) with e | hbt
          · exact e.symm
          · exact absurd (StrictOrder.trans (ha b hbt) (hb a hat')) (StrictOrder.irrefl _)
      subst hab
      refine congrArg (a :: ·) (ih ht ht' fun c => ?_)
      have hc := hmem c
      simp only [List.mem_cons] at hc
      constructor
      · intro hct
        refine (hc.1 (Or.inr hct)).resolve_left fun e => ?_
        exact StrictOrder.irrefl _ (e ▸ ha c hct)
      · intro hct
        refine (hc.2 (Or.inr hct)).resolve_left fun e => ?_
        exact StrictOrder.irrefl _ (e ▸ hb c hct)

omit [DecidableLT κ] in
/-- **A map is what its lookups answer.** -/
theorem ext_get? {m m' : SortedMap κ ν} (h : ∀ k, m.get? k = m'.get? k) : m = m' := by
  have : m.entries = m'.entries := entries_ext m.sorted m'.sorted fun a => by
    obtain ⟨k, v⟩ := a
    rw [← get?_eq_some_iff, ← get?_eq_some_iff, h]
  cases m; cases m'; cases this; rfl

end SortedMap

end WsdlTypes
