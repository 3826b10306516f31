import FieldRules.Proofs.Report.Append
import Mathlib.Logic.Relation

/-!
This file shows that a report is a faithful log of the outcomes that were recorded in it, however it
was put together. The ways to put a report together are a tree, and the validators of references,
boxes, optional places, slices and vectors are nodes of the tree like the operations on reports.
-/

namespace FieldRules

open Relation

/-- An assembly says how a report is put together from its parts. -/
inductive Assembly where
  | success
  | default
  | failure (message : Message)
  | ofOutcome (outcome : Outcome)
  | ofOutcomes (outcomes : List Outcome)
  | push (base : Assembly) (outcome : Outcome)
  | append (base other : Assembly)
  | extend (base : Assembly) (outcomes : List Outcome)
  | borrowed (inner : Assembly)
  | boxed (inner : Assembly)
  | absent
  | present (inner : Assembly)
  | slice (items : List Assembly)
  | vector (items : List Assembly)

namespace Assembly

mutual

/-- The value that is validated; an operation validates as a record. -/
def subject : Assembly → Subject
  | .success => .leaf .success
  | .default => .leaf Inhabited.default
  | .failure message => .leaf (.failure message)
  | .ofOutcome outcome => .leaf (.ofOutcome outcome)
  | .ofOutcomes outcomes => .leaf (.ofOutcomes outcomes)
  | .push base outcome => .leaf (base.subject.validate.push outcome)
  | .append base other => .leaf (base.subject.validate.append other.subject.validate)
  | .extend base outcomes => .leaf (base.subject.validate.extend outcomes)
  | .borrowed inner => .borrowed inner.subject
  | .boxed inner => .boxed inner.subject
  | .absent => .absent
  | .present inner => .present inner.subject
  | .slice items => .slice (subjects items)
  | .vector items => .vector (subjects items)

def subjects : List Assembly → List Subject
  | [] => []
  | item :: items => item.subject :: subjects items

end

def report (assembly : Assembly) : Report :=
  assembly.subject.validate

mutual

/-- The outcomes that are recorded, from left to right and depth first. -/
def outcomes : Assembly → List Outcome
  | .success => []
  | .default => []
  | .failure message => [some message]
  | .ofOutcome outcome => [outcome]
  | .ofOutcomes outcomes => outcomes
  | .push base outcome => base.outcomes ++ [outcome]
  | .append base other => base.outcomes ++ other.outcomes
  | .extend base outcomes => base.outcomes ++ outcomes
  | .borrowed inner => inner.outcomes
  | .boxed inner => inner.outcomes
  | .absent => []
  | .present inner => inner.outcomes
  | .slice items => allOutcomes items
  | .vector items => allOutcomes items

def allOutcomes : List Assembly → List Outcome
  | [] => []
  | item :: items => item.outcomes ++ allOutcomes items

end

/-- The assemblies whose reports go directly into the report. -/
def parts : Assembly → List Assembly
  | .push base _ => [base]
  | .append base other => [base, other]
  | .extend base _ => [base]
  | .borrowed inner => [inner]
  | .boxed inner => [inner]
  | .present inner => [inner]
  | .slice items => items
  | .vector items => items
  | _ => []

/-- The report of the part goes into the report of the assembly, at some depth. -/
def Contains (assembly part : Assembly) : Prop :=
  ReflTransGen (fun whole direct => direct ∈ whole.parts) assembly part

/-! ### Reports of assemblies -/

mutual

/-- The report of an assembly is collected from its outcomes, by induction on the assembly. -/
theorem report_eq : ∀ assembly : Assembly, assembly.report = .ofOutcomes assembly.outcomes
  | .success => rfl
  | .default => rfl
  | .failure _ => rfl
  | .ofOutcome _ => rfl
  | .ofOutcomes _ => rfl
  | .push base outcome => by
      have inner : base.subject.validate = _ := report_eq base
      rw [report, subject, Subject.validate, inner, outcomes, Report.push_eq_append,
        Report.ofOutcomes_append]
      rfl
  | .append base other => by
      have first : base.subject.validate = _ := report_eq base
      have second : other.subject.validate = _ := report_eq other
      rw [report, subject, Subject.validate, first, second, outcomes, Report.ofOutcomes_append]
  | .extend base outcomes => by
      have inner : base.subject.validate = _ := report_eq base
      rw [report, subject, Subject.validate, inner, Assembly.outcomes, Report.extend_eq_append,
        Report.ofOutcomes_append]
  | .borrowed inner => report_eq inner
  | .boxed inner => report_eq inner
  | .absent => rfl
  | .present inner => report_eq inner
  | .slice items => by
      rw [report, subject, Subject.validate, outcomes, validateAll_eq, Report.success_append]
  | .vector items => by
      rw [report, subject, Subject.validate, outcomes, validateAll_eq, Report.success_append]

/-- The report that is held already stays in front of the reports of the items. -/
theorem validateAll_eq (before : Report) : ∀ items : List Assembly,
    Subject.validateAll before (subjects items) = before.append (.ofOutcomes (allOutcomes items))
  | [] => (Report.append_success before).symm
  | item :: items => by
      have first : item.subject.validate = _ := report_eq item
      rw [subjects, Subject.validateAll, first, validateAll_eq, allOutcomes,
        Report.ofOutcomes_append, Report.append_assoc]

end

theorem report_messages (assembly : Assembly) :
    assembly.report.messages = assembly.outcomes.filterMap id := by
  rw [report_eq, Report.ofOutcomes_eq]

theorem report_pass (assembly : Assembly) :
    assembly.report.pass = assembly.outcomes.all Option.isNone := by
  rw [report_eq, Report.ofOutcomes_eq]

/-! ### Parts -/

theorem infix_allOutcomes {item : Assembly} {items : List Assembly} (member : item ∈ items) :
    item.outcomes <:+: allOutcomes items := by
  induction items with
  | nil => cases member
  | cons first items inductionHypothesis =>
      rw [allOutcomes]
      rcases List.mem_cons.1 member with rfl | member
      · exact (List.prefix_append _ _).isInfix
      · exact (inductionHypothesis member).trans (List.suffix_append _ _).isInfix

theorem infix_of_mem_parts {assembly part : Assembly} (direct : part ∈ assembly.parts) :
    part.outcomes <:+: assembly.outcomes := by
  cases assembly with
  | success | default | failure | ofOutcome | ofOutcomes | absent => cases direct
  | push base outcome =>
      cases List.mem_singleton.1 direct
      exact (List.prefix_append _ _).isInfix
  | append base other =>
      rcases List.mem_cons.1 direct with rfl | last
      · exact (List.prefix_append _ _).isInfix
      · cases List.mem_singleton.1 last
        exact (List.suffix_append _ _).isInfix
  | extend base outcomes =>
      cases List.mem_singleton.1 direct
      exact (List.prefix_append _ _).isInfix
  | borrowed inner | boxed inner | present inner =>
      cases List.mem_singleton.1 direct
      exact List.infix_rfl
  | slice items | vector items => exact infix_allOutcomes direct

/-- The outcomes of a part are never left out or mixed with others later on. -/
theorem infix_of_contains {assembly part : Assembly} (inside : assembly.Contains part) :
    part.outcomes <:+: assembly.outcomes := by
  induction inside with
  | refl => exact List.infix_rfl
  | tail _ direct inductionHypothesis => exact (infix_of_mem_parts direct).trans inductionHypothesis

/-- A report with a part that fails has failed for good. -/
theorem fails_of_contains {assembly part : Assembly} (inside : assembly.Contains part)
    (failed : part.report.pass = false) : assembly.report.pass = false := by
  rw [report_pass, List.all_eq_false] at failed ⊢
  obtain ⟨outcome, member, failure⟩ := failed
  exact ⟨outcome, (infix_of_contains inside).subset member, failure⟩

end Assembly

/-! ### Complaints -/

namespace Report

theorem complaint?_eq_some_iff {report : Report} {context : String} {complaint : Complaint} :
    report.complaint? context = some complaint ↔
      report.pass = false ∧ complaint = ⟨context, report.messages⟩ := by
  rw [complaint?]
  cases report.pass <;> simp [eq_comm]

theorem toExcept_eq_error_iff {report : Report} {context : String} {complaint : Complaint} :
    report.toExcept context = .error complaint ↔
      report.pass = false ∧ complaint = ⟨context, report.messages⟩ := by
  rw [toExcept]
  cases report.pass <;> simp [eq_comm]

end Report

/-- A report holds the failed ones of its outcomes in their order. -/
theorem reports_are_faithful_logs (assembly : Assembly) :
    (assembly.report.pass = true ↔ assembly.report.messages = []) ∧
    assembly.report.messages = assembly.outcomes.filterMap id ∧
    assembly.report.pass = assembly.outcomes.all Option.isNone ∧
    (∀ part, assembly.Contains part → part.report.messages <:+: assembly.report.messages ∧
      (part.report.pass = false → assembly.report.pass = false)) ∧
    (∀ second third, (assembly.report.append second).append third =
      assembly.report.append (second.append third)) ∧
    Report.success.append assembly.report = assembly.report ∧
    assembly.report.append .success = assembly.report ∧
    ∀ context complaint,
      (assembly.report.complaint? context = some complaint ↔ assembly.report.pass = false ∧
        complaint = ⟨context, assembly.outcomes.filterMap id⟩) ∧
      (assembly.report.toExcept context = .error complaint ↔ assembly.report.pass = false ∧
        complaint = ⟨context, assembly.outcomes.filterMap id⟩) := by
  refine ⟨?_, assembly.report_messages, assembly.report_pass, fun part inside => ?_,
    Report.append_assoc _, Report.success_append _, Report.append_success _,
    fun context complaint => ?_⟩
  · rw [assembly.report_pass, assembly.report_messages, List.filterMap_eq_nil_iff, List.all_eq_true]
    simp only [Option.isNone_iff_eq_none, id]
  · refine ⟨?_, Assembly.fails_of_contains inside⟩
    rw [part.report_messages, assembly.report_messages]
    exact (Assembly.infix_of_contains inside).filterMap id
  · rw [← assembly.report_messages]
    exact ⟨Report.complaint?_eq_some_iff, Report.toExcept_eq_error_iff⟩

/-- A report with one message takes up a vector, which holds a failure in a box. -/
def boxedFailure : Assembly :=
  .append (.push .default (some ⟨"code", "req", "is required"⟩))
    (.vector [.absent, .boxed (.failure ⟨"note", "min", "is too short"⟩)])

theorem reports_are_faithful_logs_of_boxedFailure :
    boxedFailure.Contains (.failure ⟨"note", "min", "is too short"⟩) ∧
    boxedFailure.report.pass = false ∧
    boxedFailure.report.messages =
      [⟨"code", "req", "is required"⟩, ⟨"note", "min", "is too short"⟩] := by
  have inside : boxedFailure.Contains (.failure ⟨"note", "min", "is too short"⟩) := by
    refine .head (List.mem_cons_of_mem _ List.mem_cons_self) ?_
    refine .head (List.mem_cons_of_mem _ List.mem_cons_self) ?_
    exact .single (List.mem_singleton_self _)
  obtain ⟨-, messages, -, parts, -⟩ := reports_are_faithful_logs boxedFailure
  exact ⟨inside, (parts _ inside).2 rfl, messages⟩

end FieldRules
