import FieldRules.Generator.Basic
import Mathlib.Data.List.Forall2

/-!
This file says which plans have a text. A plan is written if and only if all its names are
identifiers, and no setting of the generator changes that.
-/

namespace FieldRules

/-- A name is an identifier if it has a spelling. -/
def Identifier.IsSpelled (name : String) : Prop :=
  ∃ spelling, Identifier.spelling? name = some spelling

/-- The names that a statement writes as identifiers. -/
def Statement.names : Statement → List String
  | .push field (.equalsField target) => [field, target]
  | .push field _ => [field]
  | .append field => [field]

/-- The names that the implementation of a plan writes as identifiers. -/
def Plan.names (plan : Plan) : List String :=
  plan.record :: plan.steps.flatMap fun step => step.statement.names

open Identifier (IsSpelled)

/-! ### Statements -/

namespace Statement

/-- A statement writes its own field and the sibling of a comparison. -/
theorem mem_names_iff {statement : Statement} {name : String} :
    name ∈ statement.names ↔
      name = statement.field ∨ ∃ field, statement = .push field (.equalsField name) := by
  cases statement with
  | append field => simp [names, Statement.field]
  | push field test => cases test <;> simp [names, Statement.field, eq_comm]

theorem fieldValue_ok_iff {record name : String} :
    (∃ value, fieldValue record name = .ok value) ↔ IsSpelled name := by
  rw [fieldValue, IsSpelled]
  cases Identifier.spelling? name <;> simp

theorem checkCall_ok_iff {record field value : String} {test : FieldCheck} :
    (∃ call, checkCall record field value test = .ok call) ↔
      ∀ target, test = .equalsField target → IsSpelled target := by
  cases test with
  | equalsField target =>
      have sibling : (∃ text, fieldValue record target = .ok text) ↔ IsSpelled target :=
        fieldValue_ok_iff
      rw [checkCall]
      cases spelled : fieldValue record target <;> simpa [spelled, Except.map] using sibling
  | _ => simp [checkCall]

/-- A statement has a text if its names are identifiers. -/
theorem text_ok_iff {runtimePath record : String} {statement : Statement} :
    (∃ text, statement.text runtimePath record = .ok text) ↔
      ∀ name ∈ statement.names, IsSpelled name := by
  constructor
  · rintro ⟨text, written⟩ name member
    rw [Statement.text] at written
    split at written
    · cases written
    · next value spelled =>
        rcases mem_names_iff.1 member with rfl | ⟨field, rfl⟩
        · exact fieldValue_ok_iff.1 ⟨value, spelled⟩
        · cases called : checkCall record field value (.equalsField name) with
          | error error => simp [called, Except.map] at written
          | ok call => exact checkCall_ok_iff.1 ⟨call, called⟩ name rfl
  · intro spells
    obtain ⟨value, spelled⟩ := fieldValue_ok_iff.2 (spells _ (mem_names_iff.2 (.inl rfl)))
    rw [Statement.text, spelled]
    cases statement with
    | append field => exact ⟨_, rfl⟩
    | push field test =>
        obtain ⟨call, called⟩ : ∃ call, checkCall record field value test = .ok call := by
          refine checkCall_ok_iff.2 fun target same => spells target ?_
          exact mem_names_iff.2 (.inr ⟨field, by rw [same]⟩)
        dsimp only
        rw [called]
        exact ⟨_, rfl⟩

end Statement

/-! ### Plans -/

namespace Plan

theorem stepLines_ok_iff {config : GeneratorConfig} {record : String} {current : Option String}
    {steps : List Step} :
    (∃ lines, stepLines config record current steps = .ok lines) ↔
      ∀ step ∈ steps, ∀ name ∈ step.statement.names, IsSpelled name := by
  induction steps generalizing current with
  | nil => simp [stepLines]
  | cons step steps inductionHypothesis =>
      have first : (∃ text, step.statement.text config.runtimePath record = .ok text) ↔ _ :=
        Statement.text_ok_iff
      have others := @inductionHypothesis (some step.site.field)
      rw [List.forall_mem_cons, ← first, ← others, stepLines]
      cases step.statement.text config.runtimePath record with
      | error error => simp
      | ok text =>
          cases stepLines config record (some step.site.field) steps with
          | error error => simp
          | ok lines =>
              dsimp only
              split <;> simp

/-- A plan has an implementation if its names are identifiers. -/
theorem implementation_ok_iff {config : GeneratorConfig} {plan : Plan} :
    (∃ text, plan.implementation config = .ok text) ↔ ∀ name ∈ plan.names, IsSpelled name := by
  have lines : (∃ lines, stepLines config plan.record none plan.steps = .ok lines) ↔ _ :=
    stepLines_ok_iff
  have nested : (∀ name ∈ plan.steps.flatMap fun step => step.statement.names, IsSpelled name) ↔
      ∀ step ∈ plan.steps, ∀ name ∈ step.statement.names, IsSpelled name := by
    simp only [List.mem_flatMap, forall_exists_index, and_imp]
    exact ⟨fun spells step member name => spells name step member,
      fun spells name step member => spells step member name⟩
  rw [names, List.forall_mem_cons, nested, ← lines, IsSpelled, implementation, body]
  cases Identifier.spelling? plan.record with
  | none => simp
  | some spelling =>
      cases stepLines config plan.record none plan.steps <;> simp

/-- An implementation is written around the body of its plan. -/
theorem exists_body_of_implementation {config : GeneratorConfig} {plan : Plan} {text : String}
    (written : plan.implementation config = .ok text) : ∃ body, plan.body config = .ok body := by
  rw [implementation] at written
  split at written
  · cases written
  · split at written
    · cases written
    · next body ofSteps => exact ⟨body, ofSteps⟩

/-- The implementations of some plans are the texts of the plans, in their order. -/
theorem implementations_ok_iff {config : GeneratorConfig} {plans : List Plan}
    {texts : List String} :
    implementations config plans = .ok texts ↔
      List.Forall₂ (fun plan text => plan.implementation config = .ok text) plans texts := by
  induction plans generalizing texts with
  | nil => cases texts <;> simp [implementations]
  | cons plan plans inductionHypothesis =>
      rw [implementations, List.forall₂_cons_left_iff]
      cases plan.implementation config with
      | error error => simp
      | ok text =>
          simp only [← inductionHypothesis]
          cases implementations config plans <;> simp [eq_comm]

end Plan

end FieldRules
