import FieldRules.Plan.Execution
import FieldRules.Proofs.Plan.Direct
import FieldRules.Proofs.Report.Append

/-!
This file shows how the reports of steps are put together. The report of a plan passes if it has no
message, and its messages are those of the steps, one step after the other.
-/

namespace FieldRules

/-- The report of a record without a plan is the one that passes. -/
def Plan.report (plan : Option Plan) (data : Data) : Report :=
  match plan with
  | none => .success
  | some plan => plan.execute data

mutual

theorem Step.run_faithful (data : Data) : ∀ step : Step, (step.run data).Faithful
  | .check site test => by
      rw [Step.run]
      exact Report.ofOutcome_faithful _
  | .deferred site typeName => by
      rw [Step.run]
      exact Report.failure_faithful _
  | .nested site record namespaceName steps => by
      rw [Step.run]
      split
      · exact Report.failure_faithful _
      · exact Report.success_faithful
      · exact Step.runAll_faithful _ steps
      · exact Report.failure_faithful _

theorem Step.runAll_faithful (data : Data) : ∀ steps : List Step, (Step.runAll data steps).Faithful
  | [] => by
      rw [Step.runAll]
      exact Report.success_faithful
  | step :: steps => by
      rw [Step.runAll]
      exact (Step.run_faithful data step).append (Step.runAll_faithful data steps)

end

theorem Plan.report_faithful (plan : Option Plan) (data : Data) :
    (Plan.report plan data).Faithful := by
  cases plan with
  | none => exact Report.success_faithful
  | some plan => exact Step.runAll_faithful data plan.steps

theorem Step.runAll_messages (data : Data) (steps : List Step) :
    (Step.runAll data steps).messages = steps.flatMap fun step => (step.run data).messages := by
  induction steps with
  | nil => rfl
  | cons step steps inductionHypothesis =>
      rw [Step.runAll, Report.append_messages, inductionHypothesis, List.flatMap_cons]

theorem Plan.report_messages {record : Record} {steps : List Step} (data : Data) :
    (Plan.report (record.plan? steps) data).messages =
      steps.flatMap fun step => (step.run data).messages := by
  cases steps with
  | nil => rfl
  | cons step steps => exact Step.runAll_messages data (step :: steps)

/-- A check that reads a text answers as it does on the text of its field. -/
theorem FieldCheck.run_of_text {test : FieldCheck} {site : Site} {check : String → Outcome}
    (reads : ∀ data, test.run site data = checkRead (data.fieldValue site.field) fun value =>
      checkRead (value.textIn site.field) check)
    {data : Data} {value : String} (present : data.member? site.field = some (.text value)) :
    test.run site data = check value := by
  rw [reads, Data.fieldValue, present, checkRead, Data.textIn, checkRead]

end FieldRules
