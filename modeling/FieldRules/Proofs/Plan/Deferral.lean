import FieldRules.Proofs.Plan.Steps
import FieldRules.Proofs.Plan.Whole

/-!
This file compares the two ways to compile nested records. A plan that defers them has a step for
each descent; with the plans of the nested records in the places of these steps, it is the plan that
resolves them.
-/

namespace FieldRules

/-- A deferred step stands for the plan of its record, if there is one. -/
def Step.resolved (schema : Schema) : Step → List Step
  | .deferred site typeName => nestedSteps site ((Compiler.ofSchema schema).planned? typeName)
  | step => [step]

/-- The step that a rule gives if the nested records are left to others. -/
inductive Occurrence.Gives (place : Occurrence) : Step → Prop
  | check {test : FieldCheck}
      (row : RuleTable place.record place.field place.rule (.check test)) :
      Gives place (.check (place.field.site place.rule) test)
  | deferred (row : RuleTable place.record place.field place.rule .descend) :
      Gives place (.deferred (place.field.site place.rule) place.field.typeName)

/-- If the steps of each item replace other steps, so do all steps. -/
theorem joinSteps_replace {Item : Type} {visit other : Item → Except CompileError (List Step)}
    {replace : Step → List Step} {items : List Item}
    (each : ∀ item part, visit item = .ok part →
      ∃ kept, other item = .ok kept ∧ part = kept.flatMap replace)
    {steps : List Step} (joined : joinSteps visit items = .ok steps) :
    ∃ kept, joinSteps other items = .ok kept ∧ steps = kept.flatMap replace := by
  refine joinSteps_induction (motive := fun items steps =>
    ∃ kept, joinSteps other items = .ok kept ∧ steps = kept.flatMap replace)
    ⟨[], rfl, rfl⟩ ?_ joined
  rintro item items part others visited ⟨rest, further, rfl⟩
  obtain ⟨kept, first, rfl⟩ := each item part visited
  refine ⟨kept ++ rest, ?_, List.flatMap_append.symm⟩
  rw [joinSteps, first, further]

/-- Each step of an item is one of the joined steps. -/
theorem mem_joinSteps {Item : Type} {visit : Item → Except CompileError (List Step)}
    {items : List Item} {steps : List Step} (joined : joinSteps visit items = .ok steps)
    {item : Item} (member : item ∈ items) {part : List Step} (visited : visit item = .ok part) :
    ∀ step ∈ part, step ∈ steps := by
  refine joinSteps_induction (motive := fun items steps =>
    item ∈ items → ∀ step ∈ part, step ∈ steps) (by simp) ?_ joined member
  intro first items ofFirst others firstVisited earlier member step inside
  rcases List.mem_cons.1 member with rfl | member
  · cases firstVisited.symm.trans visited
    exact List.mem_append_left _ inside
  · exact List.mem_append_right _ (earlier member step inside)

section

variable {schema other : Schema} {record : Record} {field : Field}

/-- A rule has the same resolution under both compilers, so only the descents differ. -/
theorem directRule_deferring {rule : Rule} {part : List Step} (descent : DirectDescent)
    (compiled : (Compiler.ofSchema schema).directRule (Compiler.ofSchema schema).compile record
      field rule = .ok part) :
    ∃ kept, (Compiler.deferring other).directRule descent record field rule = .ok kept ∧
      part = kept.flatMap (Step.resolved schema) := by
  have resolves {resolution : Resolution} (row : RuleTable record field rule resolution) :
      (Compiler.deferring other).registry.resolve record field rule = .ok resolution :=
    resolve_of_ruleTable row
  cases ruleSteps_of_directRule compiled with
  | check row =>
      refine ⟨[.check (field.site rule) _], ?_, rfl⟩
      rw [Compiler.directRule, resolves row]
  | nested row found descended =>
      refine ⟨[.deferred (field.site rule) field.typeName], ?_, ?_⟩
      · rw [Compiler.directRule, resolves row]
        rfl
      · rw [List.flatMap_singleton, Step.resolved, Compiler.planned?_of_compile descended]

theorem directField_deferring {part : List Step} (descent : DirectDescent)
    (compiled : (Compiler.ofSchema schema).directField (Compiler.ofSchema schema).compile record
      field = .ok part) :
    ∃ kept, (Compiler.deferring other).directField descent record field = .ok kept ∧
      part = kept.flatMap (Step.resolved schema) := by
  rw [Compiler.directField] at compiled
  split at compiled
  · cases compiled
  · next rules read =>
      rw [Compiler.directField, read]
      exact joinSteps_replace (fun rule part => directRule_deferring descent) compiled

/-- A deferring compiler gives one step for each rule. -/
theorem gives_of_directRule {rule : Rule} {part : List Step} {descent : DirectDescent}
    (compiled : (Compiler.deferring other).directRule descent record field rule = .ok part) :
    ∃ step, part = [step] ∧ Occurrence.Gives ⟨record, field, rule⟩ step := by
  rw [Compiler.directRule] at compiled
  split at compiled
  · cases compiled
  · next test resolved =>
      cases compiled
      exact ⟨_, rfl, .check (ruleTable_of_resolve resolved)⟩
  · next resolved =>
      cases compiled
      exact ⟨_, rfl, .deferred (ruleTable_of_resolve resolved)⟩

/-- The deferred steps of a record are those of its rules that descend. -/
theorem mem_deferring_iff {left : List Step} {descent : DirectDescent}
    (joined : joinSteps ((Compiler.deferring other).directField descent record) record.fields =
      .ok left) {site : Site} {typeName : String} :
    .deferred site typeName ∈ left ↔ ∃ field ∈ record.fields, ∃ rule ∈ field.rules,
      rule.Descends ∧ site = field.site rule ∧ typeName = field.typeName := by
  constructor
  · intro member
    obtain ⟨field, fieldMember, ofTag, visited, member⟩ := joinSteps_mem joined _ member
    obtain ⟨rule, ruleMember, part, visited, member⟩ :=
      joinSteps_mem (joinSteps_of_directField visited) _ member
    obtain ⟨step, rfl, gives⟩ := gives_of_directRule visited
    obtain rfl := List.mem_singleton.1 member
    cases gives with
    | deferred row =>
        exact ⟨field, fieldMember, rule, ruleMember, row.eq_descend_iff.1 rfl, rfl, rfl⟩
  · rintro ⟨field, fieldMember, rule, ruleMember, descends, rfl, rfl⟩
    obtain ⟨ofTag, visited⟩ := joinSteps_visits joined field fieldMember
    refine mem_joinSteps joined fieldMember visited _ ?_
    have ofRules := joinSteps_of_directField visited
    obtain ⟨part, visited⟩ := joinSteps_visits ofRules rule ruleMember
    refine mem_joinSteps ofRules ruleMember visited _ ?_
    obtain ⟨step, rfl, gives⟩ := gives_of_directRule visited
    cases gives with
    | check row => exact absurd descends row.not_descends
    | deferred row => exact List.mem_singleton_self _

end

/-- Deferring puts a step in the place of each nested plan. -/
theorem deferring_of_compileRecord {schema : Schema} (other : Schema) {record : Record}
    {plan : Option Plan} (compiled : (Compiler.ofSchema schema).compileRecord record = .ok plan) :
    ∃ left, (Compiler.deferring other).compileRecord record = .ok (record.plan? left) ∧
      plan = record.plan? (left.flatMap (Step.resolved schema)) ∧
      ∀ site typeName, .deferred site typeName ∈ left ↔ ∃ field ∈ record.fields,
        ∃ rule ∈ field.rules, rule.Descends ∧ site = field.site rule ∧
          typeName = field.typeName := by
  have built := Compiler.directBuild_of_compileRecord compiled
  obtain ⟨steps, joined, rfl⟩ := Compiler.directBuild_ok_iff.1 built
  obtain ⟨left, deferred, rfl⟩ : ∃ left, joinSteps ((Compiler.deferring other).directField
      ((Compiler.deferring other).direct [record.name]) record) record.fields = .ok left ∧
      steps = left.flatMap (Step.resolved schema) :=
    joinSteps_replace (fun field part => directField_deferring _) joined
  refine ⟨left, ?_, rfl, fun site typeName => mem_deferring_iff deferred⟩
  rw [Compiler.compileRecord_eq_direct]
  exact Compiler.directBuild_ok_iff.2 ⟨left, deferred, rfl⟩

end FieldRules
