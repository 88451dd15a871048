import WsdlTypes.Problem
/-!
# Reports

A value together with what was noticed on the way to it. A step of a resolution never
fails: it reports and goes on, so its value does not depend on what earlier steps reported,
and the reports of a sequence of steps follow one another (`Report.findings_bind`).
-/

namespace WsdlTypes

/-- A value and the findings made on the way to it, in order. -/
structure Report (α : Type) where
  value : α
  findings : List Finding := []

namespace Report

variable {α β : Type}

instance : Monad Report where
  pure a := ⟨a, []⟩
  bind r f := ⟨(f r.value).value, r.findings ++ (f r.value).findings⟩

/-- One finding. -/
def finding (problem : Problem) (file : String) (line : Nat) : Report Unit :=
  ⟨(), [{ problem, file, line }]⟩

@[simp] theorem value_pure (a : α) : (pure a : Report α).value = a := rfl

@[simp] theorem findings_pure (a : α) : (pure a : Report α).findings = [] := rfl

@[simp] theorem value_bind (r : Report α) (f : α → Report β) :
    (r >>= f).value = (f r.value).value := rfl

@[simp] theorem findings_bind (r : Report α) (f : α → Report β) :
    (r >>= f).findings = r.findings ++ (f r.value).findings := rfl

@[simp] theorem value_map (f : α → β) (r : Report α) : (f <$> r).value = f r.value := rfl

@[simp] theorem findings_map (f : α → β) (r : Report α) :
    (f <$> r).findings = r.findings := List.append_nil _

@[simp] theorem value_finding (problem : Problem) (file : String) (line : Nat) :
    (finding problem file line).value = () := rfl

@[simp] theorem findings_finding (problem : Problem) (file : String) (line : Nat) :
    (finding problem file line).findings = [{ problem, file, line }] := rfl

@[ext] theorem ext {r s : Report α} (hvalue : r.value = s.value)
    (hfindings : r.findings = s.findings) : r = s := by
  cases r; cases s; cases hvalue; cases hfindings; rfl

instance : LawfulMonad Report := LawfulMonad.mk' Report
  (fun _ => Report.ext rfl (List.append_nil _))
  (fun _ _ => Report.ext rfl rfl)
  (fun _ _ _ => Report.ext rfl (List.append_assoc ..))

/-- The reports of a step for each of some things, in order. -/
def each (f : α → Report β) (l : List α) : Report (List β) :=
  ⟨l.map fun a => (f a).value, l.flatMap fun a => (f a).findings⟩

/-- A state taken through a step for each of some things, in order. -/
def fold (f : β → α → Report β) : β → List α → Report β
  | b, [] => pure b
  | b, a :: rest => do fold f (← f b a) rest

@[simp] theorem value_each (f : α → Report β) (l : List α) :
    (each f l).value = l.map fun a => (f a).value := rfl

@[simp] theorem findings_each (f : α → Report β) (l : List α) :
    (each f l).findings = l.flatMap fun a => (f a).findings := rfl

@[simp] theorem fold_nil (f : β → α → Report β) (b : β) : fold f b [] = pure b := rfl

theorem fold_cons (f : β → α → Report β) (b : β) (a : α) (rest : List α) :
    fold f b (a :: rest) = f b a >>= fun b => fold f b rest := rfl

theorem fold_append (f : β → α → Report β) (b : β) (l l' : List α) :
    fold f b (l ++ l') = fold f b l >>= fun b => fold f b l' := by
  induction l generalizing b with
  | nil => simp
  | cons a rest ih => simp [fold_cons, ih]

end Report

end WsdlTypes
