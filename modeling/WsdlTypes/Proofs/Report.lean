import WsdlTypes.Report
/-!
# Reports of many steps

A state that is taken through a step for each of some things keeps what every step keeps
(`fold_induction`), and where nothing was reported on the whole way nothing was on any step
of it (`fold_induction_of_findings_eq_nil`). What the reports of a resolution are about is
told stage by stage (`About`): a stage that never meets a kind of problem leaves it to the
others.
-/

namespace WsdlTypes.Report

variable {α β γ : Type} {f : β → α → Report β} {l : List α} {b : β}

/-! ## What a fold keeps -/

theorem value_fold_cons (f : β → α → Report β) (b : β) (a : α) (rest : List α) :
    (fold f b (a :: rest)).value = (fold f (f b a).value rest).value := rfl

theorem findings_fold_cons (f : β → α → Report β) (b : β) (a : α) (rest : List α) :
    (fold f b (a :: rest)).findings
      = (f b a).findings ++ (fold f (f b a).value rest).findings := rfl

/-- **What every step keeps holds at the end.** -/
theorem fold_induction {P : β → Prop} (hstep : ∀ b, ∀ a ∈ l, P b → P (f b a).value)
    (h : P b) : P (fold f b l).value := by
  induction l generalizing b with
  | nil => exact h
  | cons a rest ih =>
    rw [value_fold_cons]
    exact ih (fun b a ha => hstep b a (List.mem_cons_of_mem _ ha))
      (hstep b a List.mem_cons_self h)

/-- And what every step keeps that reports nothing, where nothing was reported. -/
theorem fold_induction_of_findings_eq_nil {P : β → Prop}
    (hclean : (fold f b l).findings = [])
    (hstep : ∀ b, ∀ a ∈ l, P b → (f b a).findings = [] → P (f b a).value)
    (h : P b) : P (fold f b l).value := by
  induction l generalizing b with
  | nil => exact h
  | cons a rest ih =>
    rw [findings_fold_cons, List.append_eq_nil_iff] at hclean
    rw [value_fold_cons]
    exact ih hclean.2 (fun b a ha => hstep b a (List.mem_cons_of_mem _ ha))
      (hstep b a List.mem_cons_self h hclean.1)

/-- What the step for one of the things brings about and every step keeps holds at the
end. -/
theorem fold_of_mem {P : β → Prop} {a : α} (ha : a ∈ l) (hmake : ∀ b, P (f b a).value)
    (hkeep : ∀ b, ∀ a ∈ l, P b → P (f b a).value) : P (fold f b l).value := by
  obtain ⟨front, back, rfl⟩ := List.append_of_mem ha
  rw [fold_append, value_bind, value_fold_cons]
  refine fold_induction (fun b a ha => hkeep b a ?_) (hmake _)
  exact List.mem_append_right _ (List.mem_cons_of_mem _ ha)

/-- Steps inside a step follow one another. -/
theorem fold_flatMap (f : β → α → Report β) (g : γ → List α) (b : β) (l : List γ) :
    fold f b (l.flatMap g) = fold (fun b c => fold f b (g c)) b l := by
  induction l generalizing b with
  | nil => rfl
  | cons c rest ih =>
    rw [List.flatMap_cons, fold_append, fold_cons]
    simp only [ih]

theorem fold_map (f : β → α → Report β) (g : γ → α) (b : β) (l : List γ) :
    fold f b (l.map g) = fold (fun b c => f b (g c)) b l := by
  induction l generalizing b with
  | nil => rfl
  | cons c rest ih =>
    rw [List.map_cons, fold_cons, fold_cons]
    simp only [ih]

theorem fold_congr {f g : β → α → Report β} (h : ∀ b, ∀ a ∈ l, f b a = g b a) (b : β) :
    fold f b l = fold g b l := by
  induction l generalizing b with
  | nil => rfl
  | cons a rest ih =>
    rw [fold_cons, fold_cons, h b a List.mem_cons_self]
    simp only [ih fun b a ha => h b a (List.mem_cons_of_mem _ ha)]

/-! ## Steps that do not depend on one another -/

theorem each_map {γ : Type} (f : α → Report β) (g : γ → α) (l : List γ) :
    each f (l.map g) = each (fun c => f (g c)) l :=
  Report.ext (by simp only [value_each, List.map_map, Function.comp_def])
    (by simp only [findings_each, List.flatMap_map])

theorem each_congr {f g : α → Report β} {l : List α} (h : ∀ a ∈ l, f a = g a) :
    each f l = each g l :=
  Report.ext (List.map_congr_left fun a ha => congrArg Report.value (h a ha))
    (congrArg List.flatten (List.map_congr_left fun a ha => congrArg Report.findings (h a ha)))

/-! ## What reports are about -/

/-- Every problem reported is one of some problems. -/
def About (P : Problem → Prop) (r : Report α) : Prop :=
  ∀ finding ∈ r.findings, P finding.problem

variable {P : Problem → Prop} {r : Report α}

theorem about_pure (a : α) : About P (pure a : Report α) := by
  intro finding hf
  cases hf

theorem about_finding {problem : Problem} (h : P problem) (file : String) (line : Nat) :
    About P (finding problem file line) := by
  intro finding hf
  rw [findings_finding, List.mem_singleton] at hf
  rwa [hf]

theorem About.mono {Q : Problem → Prop} (h : About P r) (hPQ : ∀ problem, P problem → Q problem) :
    About Q r := fun finding hf => hPQ _ (h finding hf)

theorem About.bind {g : α → Report β} (h : About P r) (hg : ∀ a, About P (g a)) :
    About P (r >>= g) := by
  intro finding hf
  rw [findings_bind] at hf
  rcases List.mem_append.1 hf with hf | hf
  · exact h finding hf
  · exact hg _ finding hf

theorem About.map (h : About P r) (g : α → β) : About P (g <$> r) := by
  intro finding hf
  rw [findings_map] at hf
  exact h finding hf

theorem about_each {g : α → Report β} (h : ∀ a ∈ l, About P (g a)) : About P (each g l) := by
  intro finding hf
  rw [findings_each] at hf
  obtain ⟨a, ha, hf⟩ := List.mem_flatMap.1 hf
  exact h a ha finding hf

theorem about_fold (h : ∀ b, ∀ a ∈ l, About P (f b a)) (b : β) : About P (fold f b l) := by
  induction l generalizing b with
  | nil => exact about_pure b
  | cons a rest ih =>
    rw [fold_cons]
    exact (h b a List.mem_cons_self).bind fun b =>
      ih (fun b a ha => h b a (List.mem_cons_of_mem _ ha)) b

end WsdlTypes.Report
