import FieldRules.Report

/-!
This file shows that reports are logs of outcomes. Appending is associative and the success is
neutral for it, and each report that collects outcomes is built from them by appending.
-/

namespace FieldRules

namespace Report

/-- The verdict of a faithful report is whether it has no message. -/
def Faithful (report : Report) : Prop :=
  report.pass = report.messages.isEmpty

theorem success_faithful : success.Faithful := rfl

theorem failure_faithful (message : Message) : (failure message).Faithful := rfl

theorem ofOutcome_faithful (outcome : Outcome) : (ofOutcome outcome).Faithful := by
  cases outcome <;> rfl

theorem Faithful.append {report other : Report} (first : report.Faithful)
    (second : other.Faithful) : (report.append other).Faithful := by
  rw [Faithful, Report.append, first, second]
  cases report.messages <;> rfl

theorem append_success (report : Report) : report.append success = report := by
  simp [Report.append, success]

theorem success_append (report : Report) : success.append report = report := by
  simp [Report.append, success]

theorem append_assoc (first second third : Report) :
    (first.append second).append third = first.append (second.append third) := by
  simp [Report.append, Bool.and_assoc]

/-- Pushing an outcome appends the report of the outcome alone. -/
theorem push_eq_append (report : Report) (outcome : Outcome) :
    report.push outcome = report.append (ofOutcome outcome) := by
  cases outcome <;> simp [push, Report.append, ofOutcome, success]

@[simp] theorem success_messages : success.messages = [] := rfl

@[simp] theorem failure_messages (message : Message) : (failure message).messages = [message] := rfl

@[simp] theorem ofOutcome_messages (outcome : Outcome) :
    (ofOutcome outcome).messages = outcome.toList := by
  cases outcome <;> rfl

@[simp] theorem append_messages (report other : Report) :
    (report.append other).messages = report.messages ++ other.messages := rfl

theorem extend_append (report : Report) (outcomes others : List Outcome) :
    report.extend (outcomes ++ others) = (report.extend outcomes).extend others := by
  rw [extend, List.foldl_append]
  rfl

theorem ofOutcomes_cons (outcome : Outcome) (outcomes : List Outcome) :
    ofOutcomes (outcome :: outcomes) = (ofOutcome outcome).extend outcomes := rfl

/-- Extending by outcomes appends the report of these outcomes. -/
theorem extend_eq_append (report : Report) (outcomes : List Outcome) :
    report.extend outcomes = report.append (ofOutcomes outcomes) := by
  induction outcomes generalizing report with
  | nil => exact (append_success report).symm
  | cons outcome outcomes inductionHypothesis =>
      have next : report.extend (outcome :: outcomes) = (report.push outcome).extend outcomes :=
        rfl
      rw [next, inductionHypothesis, push_eq_append, append_assoc, ofOutcomes_cons,
        inductionHypothesis]

theorem ofOutcomes_append (outcomes others : List Outcome) :
    ofOutcomes (outcomes ++ others) = (ofOutcomes outcomes).append (ofOutcomes others) := by
  rw [ofOutcomes, extend_append, extend_eq_append]
  rfl

/-- The report of outcomes keeps the failed ones, and it passes if all of them passed. -/
theorem ofOutcomes_eq (outcomes : List Outcome) :
    ofOutcomes outcomes = ⟨outcomes.all Option.isNone, outcomes.filterMap id⟩ := by
  induction outcomes with
  | nil => rfl
  | cons outcome outcomes inductionHypothesis =>
      rw [ofOutcomes_cons, extend_eq_append, inductionHypothesis]
      cases outcome <;> simp [append, ofOutcome, push, success]

end Report

end FieldRules
