import FieldRules.Proofs.Generator.Agreement
import FieldRules.Proofs.Generator.Grouping
import FieldRules.Proofs.Plan.Closure

/-!
This file shows that generated validators call only validators that are generated with them. A call
for a nested record comes from a nested step, and the plan in this step has a file of its own.
-/

namespace FieldRules

open Relation

/-- The implementation of the plan stands in the file of its namespace. -/
def Plan.IsEmitted (config : GeneratorConfig) (files : List GeneratedFile) (plan : Plan) : Prop :=
  ∃ file ∈ files, file.namespaceName = plan.namespaceName ∧
    ∃ text, plan.implementation config = .ok text ∧ file.Shows text

/-- A call for the named field reaches the validator of the record type of the field. -/
def Plan.Links (config : GeneratorConfig) (files : List GeneratedFile) (set : PlanSet)
    (record : Record) (plan : Plan) (name : String) : Prop :=
  ∃ field ∈ record.fields, field.name = name ∧ field.kind = .nested ∧
    ∃ inner, set.plan? field.typeName = some inner ∧ plan.Nests inner ∧
      inner.IsEmitted config files

section

variable {schema : Schema} {config : GeneratorConfig} {set : PlanSet} {files : List GeneratedFile}
  {plan : Plan}

/-- All plans of the schema are emitted if its files are generated. -/
theorem isEmitted_of_generate (compiled : (Compiler.ofSchema schema).compileAll = .ok set)
    (generated : generate schema config = .ok files) (member : plan ∈ set.plans) :
    plan.IsEmitted config files := by
  obtain ⟨other, again, each⟩ := generate_ok_iff.1 generated
  cases again.symm.trans compiled
  obtain ⟨file, fileMember, ofName⟩ := exists_file each ⟨plan, member, rfl⟩
  exact ⟨file, fileMember, ofName.named, ofName.shows member⟩

namespace Emitted

/-- Only a nested record is validated by a call of its own. -/
theorem checkCall_ne_validate (field other : String) (test : FieldCheck) :
    checkCall field test ≠ .validate other := by
  cases test <;> simp [checkCall]

/-- A call for a nested record comes from a step that nests its plan. -/
theorem links_of_validate (compiled : (Compiler.ofSchema schema).compileAll = .ok set)
    (generated : generate schema config = .ok files) (member : plan ∈ set.plans) {record : Record}
    (found : schema.record? plan.record = some record) {name : String}
    (called : .validate name ∈ plan.steps.map fun step => statementCall step.statement) :
    plan.Links config files set record name := by
  obtain ⟨step, stepMember, call⟩ := List.mem_map.1 called
  have alone := Compiler.compile_of_mem compiled member
  cases stepOf_of_compile found alone step stepMember with
  | check fieldMember row => exact absurd call (checkCall_ne_validate _ _ _)
  | @nested field fieldMember kind rule inner further =>
      cases call
      have nests : plan.Nests inner := ⟨_, stepMember⟩
      have stored := plan?_of_reaches compiled member (.single nests)
      have emitted := isEmitted_of_generate compiled generated (List.mem_of_find?_eq_some stored)
      rw [Compiler.plan_record (Compiler.planned?_of_compile further)] at stored
      exact ⟨field, fieldMember, rfl, kind, inner, stored, nests, emitted⟩

end Emitted

/-- A plan that is reached at any depth is emitted and reaches a check. -/
theorem plans_closed_under_nesting (compiled : (Compiler.ofSchema schema).compileAll = .ok set) :
    (∀ plan ∈ set.plans, ∀ inner, ReflTransGen Plan.Nests plan inner →
      set.plan? inner.record = some inner ∧ inner.steps ≠ [] ∧
        ∃ deepest, ReflTransGen Plan.Nests inner deepest ∧ deepest.HasCheck) ∧
    (WellFounded fun target name => set.Nests name target) ∧
    ∀ config files, generate schema config = .ok files → ∀ plan ∈ set.plans,
      plan.IsEmitted config files ∧
        ∃ record body calls, schema.record? plan.record = some record ∧
          plan.body config = .ok body ∧
          Emitted.readBody? config.runtimePath body = some calls ∧
          ∀ name, .validate name ∈ calls → plan.Links config files set record name := by
  refine ⟨fun plan member inner reaches => ?_, nests_names_wellFounded compiled,
    fun config files generated plan member => ?_⟩
  · have alone := compile_of_nests_reflTransGen (Compiler.compile_of_mem compiled member) reaches
    exact ⟨plan?_of_compile compiled alone, steps_ne_nil_of_compile alone,
      exists_check_of_compile alone⟩
  · obtain ⟨file, fileMember, named, text, written, shown⟩ :=
      isEmitted_of_generate compiled generated member
    obtain ⟨body, ofSteps⟩ := Plan.exists_body_of_implementation written
    obtain ⟨record, found, -⟩ :=
      Compiler.compile_ok_iff.1 (Compiler.compile_of_mem compiled member)
    refine ⟨⟨file, fileMember, named, text, written, shown⟩, record, body, _, found, ofSteps,
      Emitted.readBody?_body ofSteps, ?_⟩
    exact fun name called => Emitted.links_of_validate compiled generated member found called

/-- The plan of a place is nested in the plan of a purchase. -/
theorem plans_closed_under_nesting_of_purchase :
    (Compiler.ofSchema purchaseSchema).compileAll = .ok ⟨[purchasePlan, placePlan]⟩ ∧
    purchasePlan.Nests placePlan ∧
    (PlanSet.mk [purchasePlan, placePlan]).plan? "Place" = some placePlan ∧
    ∃ deepest, ReflTransGen Plan.Nests placePlan deepest ∧ deepest.HasCheck := by
  have nests : purchasePlan.Nests placePlan :=
    ⟨_, List.mem_cons_of_mem _ (List.mem_cons_of_mem _ List.mem_cons_self)⟩
  obtain ⟨reached, -, -⟩ := plans_closed_under_nesting Emitted.compileAll_purchase
  obtain ⟨stored, -, check⟩ :=
    reached purchasePlan List.mem_cons_self placePlan (.single nests)
  exact ⟨Emitted.compileAll_purchase, nests, stored, check⟩

end

end FieldRules
