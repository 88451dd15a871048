/-!
# What is left to visit

A walk that never enters the same thing twice ends because ever less is left. The measure
counts the things that were not visited; entering one of them lowers it
(`unvisited_cons_lt`), and no further visit raises it (`unvisited_le_of_subset`).
-/

namespace WsdlTypes

variable {α : Type} [DecidableEq α] {all visited visited' : List α} {a : α}

/-- How many things were not visited. -/
def unvisited (all visited : List α) : Nat := all.countP (· ∉ visited)

/-- Having visited more leaves no more to visit. -/
theorem unvisited_le_of_subset (h : visited ⊆ visited') :
    unvisited all visited' ≤ unvisited all visited := by
  refine List.countP_mono_left fun b _ hb => ?_
  simp only [decide_eq_true_eq] at hb ⊢
  exact fun hv => hb (h hv)

/-- Visiting a thing for the first time leaves less to visit. -/
theorem unvisited_cons_lt (hmem : a ∈ all) (hnew : a ∉ visited) :
    unvisited all (a :: visited) < unvisited all visited := by
  induction all with
  | nil => cases hmem
  | cons b rest ih =>
    have hle : unvisited rest (a :: visited) ≤ unvisited rest visited :=
      unvisited_le_of_subset (List.subset_cons_self _ _)
    simp only [unvisited] at hle ih ⊢
    by_cases hb : b = a
    · subst hb
      rw [List.countP_cons_of_neg (by simp), List.countP_cons_of_pos (by simpa using hnew)]
      omega
    · have hrest := ih ((List.mem_cons.1 hmem).resolve_left fun e => hb e.symm)
      have hsame : (b ∈ a :: visited) = (b ∈ visited) := by simp [hb]
      rw [List.countP_cons, List.countP_cons]
      simp only [hsame]
      omega

end WsdlTypes
