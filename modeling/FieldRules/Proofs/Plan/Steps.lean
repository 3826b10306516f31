import FieldRules.Proofs.Plan.Meaning
import FieldRules.Proofs.Plan.Table

/-!
This file says where the steps of a plan come from. Each step is the one that a rule of the table
gives to its field, or it holds the steps of the nested record to which its field leads.
-/

namespace FieldRules

/-- A rule in its place, on a field of a record. -/
structure Occurrence where
  record : Record
  field : Field
  rule : Rule

/-- The rules of a record in the order of its fields and tags. -/
def Record.occurrences (record : Record) : List Occurrence :=
  record.fields.flatMap fun field => field.rules.map fun rule => ⟨record, field, rule⟩

/-- The steps of a result, which are none without a plan. -/
def Plan.stepsOf : Option Plan → List Step
  | none => []
  | some plan => plan.steps

@[simp]
theorem Plan.stepsOf_plan? (record : Record) (steps : List Step) :
    Plan.stepsOf (record.plan? steps) = steps := by
  cases steps <;> rfl

/-- The steps of a rule under the built-in rules. -/
inductive RuleSteps (schema : Schema) (record : Record) (field : Field) (rule : Rule) :
    List Step → Prop
  | check {test : FieldCheck} (row : RuleTable record field rule (.check test)) :
      RuleSteps schema record field rule [.check (field.site rule) test]
  | nested (row : RuleTable record field rule .descend) {nested : Record} {plan : Option Plan}
      (found : schema.record? field.typeName = some nested)
      (compiled : (Compiler.ofSchema schema).compile field.typeName = .ok plan) :
      RuleSteps schema record field rule (nestedSteps (field.site rule) plan)

theorem ruleSteps_of_directRule {schema : Schema} {record : Record} {field : Field} {rule : Rule}
    {part : List Step} (compiled : (Compiler.ofSchema schema).directRule
      (Compiler.ofSchema schema).compile record field rule = .ok part) :
    RuleSteps schema record field rule part := by
  rw [Compiler.directRule] at compiled
  split at compiled
  · cases compiled
  · next test resolved =>
      cases compiled
      exact .check (ruleTable_of_resolve resolved)
  · next resolved =>
      simp only [Compiler.directNested, Compiler.ofSchema] at compiled
      split at compiled
      · cases compiled
      · next nested found =>
          split at compiled
          · cases compiled
          · next plan descended =>
              cases compiled
              exact .nested (ruleTable_of_resolve resolved) found descended

/-- All tags of a record that is built can be read and have steps. -/
theorem ruleSteps_of_directBuild {schema : Schema} {record : Record} {plan : Option Plan}
    (built : (Compiler.ofSchema schema).directBuild (Compiler.ofSchema schema).compile record =
      .ok plan) {field : Field} (member : field ∈ record.fields) :
    readTag field.name field.tag = .ok field.rules ∧
      ∀ rule ∈ field.rules, ∃ part, RuleSteps schema record field rule part := by
  obtain ⟨rules, read, each⟩ := Compiler.directBuild_rules built member
  have same : field.rules = rules := by rw [Field.rules, read]
  rw [same]
  refine ⟨read, fun rule inside => ?_⟩
  obtain ⟨part, visited⟩ := each rule inside
  exact ⟨part, ruleSteps_of_directRule visited⟩

/-- Each of the joined steps comes from some item. -/
theorem joinSteps_mem {Item : Type} {visit : Item → Except CompileError (List Step)}
    {items : List Item} {steps : List Step} (joined : joinSteps visit items = .ok steps) :
    ∀ step ∈ steps, ∃ item ∈ items, ∃ part, visit item = .ok part ∧ step ∈ part := by
  refine joinSteps_induction (motive := fun items steps =>
    ∀ step ∈ steps, ∃ item ∈ items, ∃ part, visit item = .ok part ∧ step ∈ part) (by simp) ?_ joined
  intro item items part others visited earlier step member
  rcases List.mem_append.1 member with member | member
  · exact ⟨item, List.mem_cons_self, part, visited, member⟩
  · obtain ⟨other, otherMember, rest⟩ := earlier step member
    exact ⟨other, List.mem_cons_of_mem _ otherMember, rest⟩

/-- The steps of a field are those of its rules. -/
theorem joinSteps_of_directField {compiler : Compiler} {descent : DirectDescent} {record : Record}
    {field : Field} {part : List Step}
    (visited : compiler.directField descent record field = .ok part) :
    joinSteps (compiler.directRule descent record field) field.rules = .ok part := by
  rw [Compiler.directField] at visited
  rw [Field.rules]
  split at visited
  · cases visited
  · next rules read =>
      rw [read]
      exact visited

/-- The rule of a field asks for the step. -/
inductive StepOf (schema : Schema) (record : Record) : Step → Prop
  | check {field : Field} (member : field ∈ record.fields) {rule : Rule} {test : FieldCheck}
      (row : RuleTable record field rule (.check test)) :
      StepOf schema record (.check (field.site rule) test)
  | nested {field : Field} (member : field ∈ record.fields) (kind : field.kind = .nested)
      (rule : Rule) {plan : Plan}
      (compiled : (Compiler.ofSchema schema).compile field.typeName = .ok (some plan)) :
      StepOf schema record
        (.nested (field.site rule) plan.record plan.namespaceName plan.steps)

/-- Each step of a plan that is built comes from a rule of the record. -/
theorem stepOf_of_directBuild {schema : Schema} {record : Record} {plan : Plan}
    (built : (Compiler.ofSchema schema).directBuild (Compiler.ofSchema schema).compile record =
      .ok (some plan)) :
    ∀ step ∈ plan.steps, StepOf schema record step := by
  obtain ⟨steps, joined, ofSteps⟩ := Compiler.directBuild_ok_iff.1 built
  obtain ⟨-, rfl⟩ := Record.plan?_eq_some_iff.1 ofSteps
  intro step member
  obtain ⟨field, fieldMember, ofField, visited, member⟩ := joinSteps_mem joined step member
  obtain ⟨rule, _, part, visited, member⟩ :=
    joinSteps_mem (joinSteps_of_directField visited) step member
  cases ruleSteps_of_directRule visited with
  | check row =>
      rw [List.mem_singleton.1 member]
      exact .check fieldMember row
  | @nested row nested plan found compiled =>
      cases plan with
      | none => cases member
      | some plan =>
          rw [nestedSteps, List.mem_singleton] at member
          rw [member]
          cases row with
          | descend kind spelling known => exact .nested fieldMember kind _ compiled

/-- Each step of a plan comes from a rule of its record. -/
theorem stepOf_of_compile {schema : Schema} {name : String} {record : Record} {plan : Plan}
    (found : schema.record? name = some record)
    (compiled : (Compiler.ofSchema schema).compile name = .ok (some plan)) :
    ∀ step ∈ plan.steps, StepOf schema record step := by
  obtain ⟨other, same, built⟩ := Compiler.compile_ok_iff.1 compiled
  cases same.symm.trans found
  exact stepOf_of_directBuild built

end FieldRules
