import FieldRules.Proofs.Generator.Call
import FieldRules.Proofs.Plan.Adequacy
import FieldRules.Proofs.Plan.Deferral

/-!
This file compares derived validators with generated ones. A derived validator sees its own record
only, so it calls the validator of each nested record. A generated validator leaves out the calls of
nested records without plans, and this is the only difference.
-/

namespace FieldRules

/-- The statements of the validator of a result. -/
def Plan.statements (plan : Option Plan) : List Statement :=
  (Plan.stepsOf plan).map Step.statement

/-- Both results have no plan, or their plans are written alike. -/
def Plan.SameBody (config : GeneratorConfig) : Option Plan → Option Plan → Prop
  | none, none => True
  | some plan, some other => plan.body config = other.body config
  | _, _ => False

/-- A deferred step is planned if its record has a plan. -/
def Step.isPlanned (schema : Schema) : Step → Bool
  | .deferred _ typeName => ((Compiler.ofSchema schema).planned? typeName).isSome
  | _ => true

/-- The rules of the record descend into records with plans only. -/
def Record.NestsPlans (schema : Schema) (record : Record) : Prop :=
  ∀ field ∈ record.fields, ∀ rule ∈ field.rules, rule.Descends →
    ∃ plan, (Compiler.ofSchema schema).compile field.typeName = .ok (some plan)

/-! ### Statements -/

theorem Step.resolved_statements (schema : Schema) (step : Step) :
    (step.resolved schema).map Step.statement =
      if step.isPlanned schema then [step.statement] else [] := by
  cases step with
  | deferred site typeName =>
      rw [Step.resolved, Step.isPlanned]
      cases (Compiler.ofSchema schema).planned? typeName <;> rfl
  | _ => rfl

/-- The plans in the places of the deferred steps have the statements of the planned steps. -/
theorem flatMap_resolved_statements (schema : Schema) (left : List Step) :
    (left.flatMap (Step.resolved schema)).map Step.statement =
      (left.filter (Step.isPlanned schema)).map Step.statement := by
  induction left with
  | nil => rfl
  | cons step left inductionHypothesis =>
      rw [List.flatMap_cons, List.map_append, Step.resolved_statements, inductionHypothesis,
        List.filter_cons]
      split <;> rfl

/-! ### Bodies -/

/-- The lines of the steps depend on their statements only. -/
theorem stepLines_congr {config : GeneratorConfig} {record : String} {current : Option String}
    {steps others : List Step} (same : steps.map Step.statement = others.map Step.statement) :
    Plan.stepLines config record current steps = Plan.stepLines config record current others := by
  induction steps generalizing current others with
  | nil => rw [List.map_eq_nil_iff.1 same.symm]
  | cons step steps inductionHypothesis =>
      obtain ⟨other, others, rfl, first, rest⟩ := List.map_eq_cons_iff.1 same.symm
      have named : other.site.field = step.site.field := by
        rw [← Statement.field_step, first, Statement.field_step]
      rw [Plan.stepLines, Plan.stepLines, first, named, inductionHypothesis rest.symm]

/-- Plans of one record with the same statements have the same body. -/
theorem sameBody_of_statements {record : Record} {steps others : List Step}
    (same : steps.map Step.statement = others.map Step.statement) (config : GeneratorConfig) :
    Plan.SameBody config (record.plan? steps) (record.plan? others) := by
  cases steps with
  | nil =>
      rw [List.map_eq_nil_iff.1 same.symm]
      trivial
  | cons step steps =>
      obtain ⟨other, others, rfl, -, -⟩ := List.map_eq_cons_iff.1 same.symm
      show Plan.body _ config = Plan.body _ config
      rw [Plan.body, Plan.body, stepLines_congr same]

/-- Plans with the same body have as many steps. -/
theorem length_eq_of_sameBody {config : GeneratorConfig} {plan derived : Option Plan}
    (same : Plan.SameBody config plan derived)
    (written : ∀ own, derived = some own → ∃ body, own.body config = .ok body) :
    (Plan.stepsOf plan).length = (Plan.stepsOf derived).length := by
  match plan, derived with
  | none, none => rfl
  | some plan, some own =>
      obtain ⟨body, ofOwn⟩ := written own rfl
      have ofPlan : plan.body config = .ok body := Eq.trans same ofOwn
      have calls := (Emitted.readBody?_body ofPlan).symm.trans (Emitted.readBody?_body ofOwn)
      simpa [Plan.stepsOf] using congrArg List.length (Option.some.inj calls)

/-! ### Nested records -/

/-- A record nests plans only if all steps that it defers are planned. -/
theorem nestsPlans_iff {schema : Schema} {record : Record} {left : List Step}
    (deferred : ∀ site typeName, .deferred site typeName ∈ left ↔ ∃ field ∈ record.fields,
      ∃ rule ∈ field.rules, rule.Descends ∧ site = field.site rule ∧ typeName = field.typeName) :
    record.NestsPlans schema ↔ ∀ step ∈ left, step.isPlanned schema = true := by
  constructor
  · intro nests step member
    cases step with
    | deferred site typeName =>
        obtain ⟨field, fieldMember, rule, ruleMember, descends, rfl, rfl⟩ :=
          (deferred site typeName).1 member
        exact Compiler.isSome_planned?_iff.2 (nests field fieldMember rule ruleMember descends)
    | _ => rfl
  · intro planned field fieldMember rule ruleMember descends
    exact Compiler.isSome_planned?_iff.1 (planned _
      ((deferred _ _).2 ⟨field, fieldMember, rule, ruleMember, descends, rfl, rfl⟩))

/-- A parcel has a label, and nothing is checked of a label. -/
def parcel : Record :=
  ⟨"Parcel", "shop", [⟨"label", .nested, "Label", "obj"⟩]⟩

def parcelSchema : Schema :=
  ⟨[parcel, ⟨"Label", "shop", []⟩]⟩

/-- The derived validator of a parcel calls the validator of its label. -/
def parcelPlan : Plan :=
  ⟨"Parcel", "shop", [.deferred ⟨"label", .nested, ⟨"obj", none⟩⟩ "Label"]⟩

theorem compile_label : (Compiler.ofSchema parcelSchema).compile "Label" = .ok none :=
  Compiler.compile_ok_iff.2 ⟨_, rfl, rfl⟩

theorem compile_parcel : (Compiler.ofSchema parcelSchema).compile "Parcel" = .ok none :=
  Compiler.compile_of_nested (show _ = some parcel from rfl) compile_label rfl

/-- The derived validator of a parcel has a call that the generated one lacks. -/
theorem derived_body_differs_for_planless_label :
    parcel ∈ parcelSchema.records ∧
    (Compiler.ofSchema parcelSchema).compileRecord parcel = .ok none ∧
    (Compiler.deferring .empty).compileRecord parcel = .ok (some parcelPlan) ∧
    ∀ config, ¬Plan.SameBody config none (some parcelPlan) := by
  refine ⟨List.mem_cons_self, (Compiler.compile_eq_compileRecord rfl).symm.trans compile_parcel,
    ?_, fun config same => same⟩
  rw [Compiler.compileRecord_eq_direct]
  rfl

/-- Derived and generated bodies differ only in calls of records without plans. -/
theorem derived_body_agrees_with_generated {schema : Schema} (other : Schema) {record : Record}
    {plan : Option Plan} (compiled : (Compiler.ofSchema schema).compileRecord record = .ok plan) :
    ∃ derived, (Compiler.deferring other).compileRecord record = .ok derived ∧
      Plan.statements plan =
        ((Plan.stepsOf derived).filter (Step.isPlanned schema)).map Step.statement ∧
      (record.NestsPlans schema → ∀ config, Plan.SameBody config plan derived) ∧
      ∀ config, (∀ own, derived = some own → ∃ body, own.body config = .ok body) →
        Plan.SameBody config plan derived → record.NestsPlans schema := by
  obtain ⟨left, deferring, rfl, deferred⟩ := deferring_of_compileRecord other compiled
  have statements := flatMap_resolved_statements schema left
  refine ⟨_, deferring, ?_, fun nests config => ?_, fun config written same => ?_⟩
  · rw [Plan.statements, Plan.stepsOf_plan?, Plan.stepsOf_plan?, statements]
  · rw [List.filter_eq_self.2 ((nestsPlans_iff deferred).1 nests)] at statements
    exact sameBody_of_statements statements config
  · have lengths := length_eq_of_sameBody same written
    rw [Plan.stepsOf_plan?, Plan.stepsOf_plan?, ← List.length_map Step.statement, statements,
      List.length_map] at lengths
    exact (nestsPlans_iff deferred).2 (List.length_filter_eq_length_iff.1 lengths)

theorem derived_body_agrees_with_generated_of_purchase :
    (Compiler.ofSchema purchaseSchema).compileRecord purchase = .ok (some purchasePlan) ∧
    purchase.NestsPlans purchaseSchema ∧
    ∃ derived, (Compiler.deferring .empty).compileRecord purchase = .ok derived ∧
      Plan.SameBody .default (some purchasePlan) derived := by
  have nests : purchase.NestsPlans purchaseSchema := by
    intro field member
    rcases List.mem_pair.1 member with rfl | rfl
    · have rules : (⟨"buyer", .text, "", "req,max(8)"⟩ : Field).rules =
          [⟨"req", none⟩, ⟨"max", some "8"⟩] := rfl
      rw [rules]
      intro rule member descends
      rcases List.mem_pair.1 member with rfl | rfl
      · exact absurd descends (by decide)
      · exact absurd descends (by decide)
    · exact fun rule _ _ => ⟨placePlan, compile_place⟩
  obtain ⟨derived, deferring, -, agrees, -⟩ := derived_body_agrees_with_generated .empty
    compileRecord_purchase
  exact ⟨compileRecord_purchase, nests, derived, deferring, agrees nests .default⟩

end FieldRules
