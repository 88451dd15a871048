import Mathlib.Data.List.Forall2
import Mathlib.Data.List.ReduceOption
import WsdlTypes.Proofs.Report
/-!
# Two resolutions in step

Two resolutions keep step where they do the same at every point but for what a `Leeway` allows:
how properties are called, what is said of where types come from and how they are grouped, and
what is said of problems. Names are compared on the way, so the leeway has to tell names apart
alike on both sides. What the reports of two steps say is paired finding by finding
(`Report.Matches`), and this passes through everything that reports are put together with.
-/

namespace WsdlTypes

/-- In what two resolutions that keep step may differ. -/
structure Leeway where
  /-- How a property is called. -/
  called : String → String → Prop
  /-- How the name of a type is written. -/
  written : String → String → Prop
  /-- The package of a type. -/
  grouped : String → String → Prop
  /-- The full name of a type. -/
  known : String → String → Prop
  /-- What is wrong. -/
  reported : Problem → Problem → Prop
  /-- Two names on one side are the same exactly where those on the other side are. -/
  called_iff {a a' b b' : String} (ha : called a a') (hb : called b b') : a = b ↔ a' = b'
  /-- The newer package counts, unless it is missing. -/
  grouped_or {a a' b b' : String} (ha : grouped a a') (hb : grouped b b') :
    grouped (if b.isEmpty then a else b) (if b'.isEmpty then a' else b')
  reported_refl (problem : Problem) : reported problem problem
  reported_selfReference {a a' : String} (ha : called a a') (type : String) :
    reported (.selfReference a type) (.selfReference a' type)
  reported_undeclaredReference {a a' : String} (ha : called a a') (target : ExpandedName)
    (type : String) :
    reported (.undeclaredReference target a type) (.undeclaredReference target a' type)

/-- Names that stand for themselves alone are told apart alike. -/
theorem Leeway.eq_iff_of_eq {a a' b b' : String} (ha : a = a') (hb : b = b') :
    a = b ↔ a' = b' := by
  rw [ha, hb]

/-- And of packages that stand for themselves alone the same one counts. -/
theorem Leeway.or_eq_of_eq {a a' b b' : String} (ha : a = a') (hb : b = b') :
    (if b.isEmpty then a else b) = (if b'.isEmpty then a' else b') := by
  rw [ha, hb]

/-- Lists that are related one by one become one where what is related becomes one. -/
theorem Leeway.map_eq_of_forall₂ {α β γ : Type} {R : α → β → Prop} {f : α → γ} {g : β → γ}
    (hR : ∀ a b, R a b → g b = f a) {l : List α} {l' : List β} (h : List.Forall₂ R l l') :
    l'.map g = l.map f := by
  induction h with
  | nil => rfl
  | cons hfirst _ ih => rw [List.map_cons, List.map_cons, hR _ _ hfirst, ih]

/-- Of options that are there on both sides or on neither those that are there are related. -/
theorem Leeway.rel_reduceOption {α β : Type} {R : α → β → Prop} {l : List (Option α)}
    {l' : List (Option β)} (h : List.Forall₂ (Option.Rel R) l l') :
    List.Forall₂ R l.reduceOption l'.reduceOption :=
  List.rel_filterMap (fun _ _ hrel => hrel) h

/-- Two diagnostics of one kind at one place, whose messages are related. -/
structure Diagnostic.SameBut (R : DiagnosticKind → String → String → Prop)
    (diagnostic diagnostic' : Diagnostic) : Prop where
  kind : diagnostic'.kind = diagnostic.kind
  file : diagnostic'.file = diagnostic.file
  line : diagnostic'.line = diagnostic.line
  message : R diagnostic.kind diagnostic.message diagnostic'.message

/-- Two findings at one place, of problems that may stand for one another. -/
structure Finding.Matches (d : Leeway) (finding finding' : Finding) : Prop where
  problem : d.reported finding.problem finding'.problem
  file : finding'.file = finding.file
  line : finding'.line = finding.line

theorem Finding.Matches.refl (d : Leeway) (finding : Finding) : Matches d finding finding :=
  ⟨d.reported_refl _, rfl, rfl⟩

/-- Two reports whose values are related and whose findings match one by one. -/
structure Report.Matches {α α' : Type} (d : Leeway) (R : α → α' → Prop) (r : Report α)
    (r' : Report α') : Prop where
  value : R r.value r'.value
  findings : List.Forall₂ (Finding.Matches d) r.findings r'.findings

namespace Report

variable {d : Leeway} {α α' β β' γ γ' : Type}
variable {R : α → α' → Prop} {S : β → β' → Prop} {T : γ → γ' → Prop}

theorem matches_findings_refl (l : List Finding) : List.Forall₂ (Finding.Matches d) l l :=
  List.forall₂_same.2 fun finding _ => Finding.Matches.refl d finding

theorem matches_pure {a : α} {a' : α'} (h : R a a') : Matches d R (pure a) (pure a') :=
  ⟨h, .nil⟩

/-- A report matches itself where its value is related to itself. -/
theorem matches_self {R : α → α → Prop} {r : Report α} (h : R r.value r.value) :
    Matches d R r r :=
  ⟨h, matches_findings_refl _⟩

/-- A report matches what is made of its value where that is related to it. -/
theorem matches_map_self {f : α → α'} {r : Report α} (h : R r.value (f r.value)) :
    Matches d R r (f <$> r) where
  value := h
  findings := by
    rw [findings_map]
    exact matches_findings_refl _

theorem matches_finding {problem problem' : Problem} (h : d.reported problem problem')
    (file : String) (line : Nat) :
    Matches d (fun _ _ => True) (finding problem file line) (finding problem' file line) :=
  ⟨trivial, .cons ⟨h, rfl, rfl⟩ .nil⟩

theorem Matches.bind {r : Report α} {r' : Report α'} {f : α → Report β} {f' : α' → Report β'}
    (h : Matches d R r r') (hf : ∀ a a', R a a' → Matches d S (f a) (f' a')) :
    Matches d S (r >>= f) (r' >>= f') where
  value := (hf _ _ h.value).value
  findings := List.rel_append h.findings (hf _ _ h.value).findings

theorem Matches.map {r : Report α} {r' : Report α'} {f : α → β} {f' : α' → β'}
    (h : Matches d R r r') (hf : ∀ a a', R a a' → S (f a) (f' a')) :
    Matches d S (f <$> r) (f' <$> r') where
  value := hf _ _ h.value
  findings := by
    rw [findings_map, findings_map]
    exact h.findings

/-- The steps for some things match where the things do. -/
theorem matches_each {f : γ → Report α} {f' : γ' → Report α'} {l : List γ} {l' : List γ'}
    (h : List.Forall₂ (fun c c' => Matches d R (f c) (f' c')) l l') :
    Matches d (List.Forall₂ R) (each f l) (each f' l') where
  value := by
    rw [value_each, value_each, List.forall₂_map_left_iff, List.forall₂_map_right_iff]
    exact h.imp fun _ _ hstep => hstep.value
  findings := by
    rw [findings_each, findings_each]
    exact List.rel_flatMap h fun _ _ hstep => hstep.findings

/-- **States that are taken through matching steps** stay related, and what is reported on the
way matches. -/
theorem matches_fold {f : β → γ → Report β} {f' : β' → γ' → Report β'} {l : List γ}
    {l' : List γ'} (hl : List.Forall₂ T l l')
    (hstep : ∀ b b' c c', S b b' → T c c' → Matches d S (f b c) (f' b' c')) {b : β} {b' : β'}
    (h : S b b') : Matches d S (fold f b l) (fold f' b' l') := by
  induction hl generalizing b b' with
  | nil => exact matches_pure h
  | cons hc _ ih => exact (hstep _ _ _ _ h hc).bind fun _ _ hb => ih hb

end Report

/-! ## Computations that may fail -/

/-- Two computations that both fail, for related causes, or both have results, which are
related. -/
inductive Agree {ε ε' α α' : Type} (E : ε → ε' → Prop) (R : α → α' → Prop) :
    Except ε α → Except ε' α' → Prop where
  | error {cause : ε} {cause' : ε'} (h : E cause cause') : Agree E R (.error cause) (.error cause')
  | ok {a : α} {a' : α'} (h : R a a') : Agree E R (.ok a) (.ok a')

namespace Agree

variable {ε ε' α α' β β' : Type} {E : ε → ε' → Prop} {R : α → α' → Prop} {S : β → β' → Prop}

theorem bind {x : Except ε α} {x' : Except ε' α'} {f : α → Except ε β} {f' : α' → Except ε' β'}
    (h : Agree E R x x') (hf : ∀ a a', R a a' → Agree E S (f a) (f' a')) :
    Agree E S (x >>= f) (x' >>= f') := by
  cases h with
  | error h => exact .error h
  | ok h => exact hf _ _ h

theorem map {x : Except ε α} {x' : Except ε' α'} {f : α → β} {f' : α' → β'}
    (h : Agree E R x x') (hf : ∀ a a', R a a' → S (f a) (f' a')) :
    Agree E S (x.map f) (x'.map f') := by
  cases h with
  | error h => exact .error h
  | ok h => exact .ok (hf _ _ h)

/-- A choice that is the same on both sides. -/
theorem ite {p : Prop} [Decidable p] {x y : Except ε α} {x' y' : Except ε' α'}
    (hthen : Agree E R x x') (helse : Agree E R y y') :
    Agree E R (if p then x else y) (if p then x' else y') := by
  split
  · exact hthen
  · exact helse

theorem imp {E' : ε → ε' → Prop} {R' : α → α' → Prop} {x : Except ε α} {x' : Except ε' α'}
    (h : Agree E R x x') (herror : ∀ cause cause', E cause cause' → E' cause cause')
    (hok : ∀ a a', R a a' → R' a a') : Agree E' R' x x' := by
  cases h with
  | error h => exact .error (herror _ _ h)
  | ok h => exact .ok (hok _ _ h)

theorem refl {E : ε → ε → Prop} {R : α → α → Prop} (hE : ∀ cause, E cause cause)
    (hR : ∀ a, R a a) (x : Except ε α) : Agree E R x x := by
  cases x with
  | error cause => exact .error (hE cause)
  | ok a => exact .ok (hR a)

/-- Computations of which the second makes what the first does, but for a function, agree. -/
theorem of_toOption {x : Except ε α} {x' : Except ε' α'} {f : α → α'}
    (h : x'.toOption = x.toOption.map f) : Agree (fun _ _ => True) (fun a a' => a' = f a) x x' := by
  cases x with
  | error cause =>
    cases x' with
    | error cause' => exact .error trivial
    | ok a' => cases h
  | ok a =>
    cases x' with
    | error cause' => cases h
    | ok a' => exact .ok (Option.some.inj h)

/-- **States that are taken through steps which agree** agree at the end. -/
theorem foldlM {γ γ' : Type} {T : γ → γ' → Prop} {f : α → γ → Except ε α}
    {f' : α' → γ' → Except ε' α'} {l : List γ} {l' : List γ'} (hl : List.Forall₂ T l l')
    (hstep : ∀ a a' c c', R a a' → T c c' → Agree E R (f a c) (f' a' c')) {a : α} {a' : α'}
    (h : R a a') : Agree E R (l.foldlM f a) (l'.foldlM f' a') := by
  induction hl generalizing a a' with
  | nil => exact .ok h
  | cons hc _ ih =>
    rw [List.foldlM_cons, List.foldlM_cons]
    exact (hstep _ _ _ _ h hc).bind fun _ _ ha => ih ha

end Agree

end WsdlTypes
