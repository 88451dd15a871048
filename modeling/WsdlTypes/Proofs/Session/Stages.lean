import WsdlTypes.Proofs.Session.Schemas
import WsdlTypes.Proofs.Stages
/-!
# What a call adds to the findings of a stage

Of what a session has noted, each stage has its own part (`during`). A call adds to the findings
about declarations what its walk reports (`during_description_call`), and to those about references
what the check of the names reports that were new to it (`during_reference_call`).
-/

namespace WsdlTypes.Session

variable {session : Session} {c : Call}

/-- The walk of a call, over the declarations of the documents that it brought in. -/
def walked (session : Session) (c : Call) : Report Walk :=
  Walk.documents session.config (session.call c).catalog session.types (session.order c)

theorem during_walked : (session.walked c).During .description := Walk.about_documents _ _ _ _

/-- What was noted in a stage. -/
def during (session : Session) (stage : Stage) : List Finding :=
  session.findings.filter fun finding => finding.problem.stage = stage

theorem mem_during {stage : Stage} {finding : Finding} :
    finding ∈ session.during stage ↔
      finding ∈ session.findings ∧ finding.problem.stage = stage := by
  rw [during, List.mem_filter, decide_eq_true_eq]

/-- Of what is met in one stage alone, everything that was noted was noted there. -/
theorem filter_during {stage : Stage} {p : Problem → Bool}
    (hp : ∀ problem, p problem = true → problem.stage = stage) :
    (session.during stage).filter (fun finding => p finding.problem)
      = session.findings.filter fun finding => p finding.problem := by
  rw [during, List.filter_filter]
  refine List.filter_congr fun finding _ => ?_
  rw [Bool.and_eq_left_iff_imp]
  simpa using hp finding.problem

/-- What a call notes, apart from what its documents and its operations give rise to. -/
theorem during_call {stage : Stage} (harrival : stage ≠ .arrival) (hoperation : stage ≠ .operation) :
    (session.call c).during stage = session.during stage
      ++ ((session.walked c).findings
        ++ (References.check (session.walked c).value.types (session.walked c).value.fresh).findings
        ).filter fun finding => finding.problem.stage = stage := by
  unfold walked
  have houtcome := call_outcome session c
  generalize session.call c = next at houtcome
  cases houtcome with
  | quiet horder =>
    rw [horder]
    exact (List.append_nil _).symm
  | @absorbed location library root hparse hload =>
    have harrived : (session.traversal c.tree library root).findings.filter
        (fun finding => finding.problem.stage = stage) = [] := by
      rw [List.filter_eq_nil_iff]
      intro finding hmem
      have hother := Traversal.about_run c.tree (t := .ofRoot library session.inherited root)
        (fun _ hnone => absurd hnone List.not_mem_nil) finding hmem
      rw [hother]
      simpa using harrival.symm
    rw [order_of_loaded hparse hload, catalog_takeIn, during, findings_takeIn]
    simp only [List.filter_append, arrived, harrived,
      (Service.about_operationsOf _ _ _ _).filter_eq_nil hoperation.symm, List.append_nil]
    rfl

/-- **Of declarations a call notes what its walk reports.** -/
theorem during_description_call :
    (session.call c).during .description
      = session.during .description ++ (session.walked c).findings := by
  rw [during_call (by decide) (by decide), List.filter_append, during_walked.filter_eq_self,
    (References.about_check _ _).filter_eq_nil (by decide), List.append_nil]

/-- **Of references a call notes what the check reports**, of the names that are new. -/
theorem during_reference_call :
    (session.call c).during .reference = session.during .reference
      ++ (References.check (session.walked c).value.types
        (session.walked c).value.fresh).findings := by
  rw [during_call (by decide) (by decide), List.filter_append,
    during_walked.filter_eq_nil (by decide), (References.about_check _ _).filter_eq_self,
    List.nil_append]

end WsdlTypes.Session
