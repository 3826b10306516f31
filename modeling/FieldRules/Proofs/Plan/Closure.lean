import FieldRules.Proofs.Plan.Steps
import FieldRules.Proofs.Plan.Whole

/-!
This file shows that the plans of a schema are closed under nesting. The plan in a nested step is
the plan that the set has for its record, no nesting is endless, and each nesting ends in a check.
-/

namespace FieldRules

open Relation

/-- A step of the plan runs the steps of the inner plan. -/
def Plan.Nests (plan inner : Plan) : Prop :=
  ∃ site, .nested site inner.record inner.namespaceName inner.steps ∈ plan.steps

/-- A step of the plan checks a field itself. -/
def Plan.HasCheck (plan : Plan) : Prop :=
  ∃ site test, .check site test ∈ plan.steps

/-- The plan of the first name nests a plan with the second name. -/
def PlanSet.Nests (set : PlanSet) (name target : String) : Prop :=
  ∃ plan inner, set.plan? name = some plan ∧ plan.Nests inner ∧ inner.record = target

/-! ### The depth of plans -/

theorem Plan.sizeOf_nests {plan inner : Plan} (nests : plan.Nests inner) :
    sizeOf inner.steps < sizeOf plan.steps := by
  obtain ⟨site, member⟩ := nests
  have smaller := List.sizeOf_lt_of_mem member
  rw [Step.nested.sizeOf_spec] at smaller
  omega

/-- Plans are finite, so no nesting of them is endless. -/
theorem Plan.nests_wellFounded : WellFounded fun inner plan : Plan => plan.Nests inner :=
  Subrelation.wf sizeOf_nests (measure fun plan : Plan => sizeOf plan.steps).wf

section

variable {schema : Schema} {set : PlanSet} {plan inner : Plan}

/-! ### Compiled plans -/

theorem steps_ne_nil_of_compile {compiler : Compiler} {name : String}
    (compiled : compiler.compile name = .ok (some plan)) : plan.steps ≠ [] := by
  obtain ⟨record, -, built⟩ := Compiler.compile_ok_iff.1 compiled
  obtain ⟨steps, -, ofSteps⟩ := Compiler.directBuild_ok_iff.1 built
  obtain ⟨filled, rfl⟩ := Record.plan?_eq_some_iff.1 ofSteps
  exact filled

/-- A nested plan is compiled from the record that it names. -/
theorem compile_of_nests
    (compiled : (Compiler.ofSchema schema).compile plan.record = .ok (some plan))
    (nests : plan.Nests inner) :
    (Compiler.ofSchema schema).compile inner.record = .ok (some inner) := by
  obtain ⟨site, member⟩ := nests
  obtain ⟨record, found, -⟩ := Compiler.compile_ok_iff.1 compiled
  generalize nested : Step.nested site inner.record inner.namespaceName inner.steps = step at member
  cases stepOf_of_compile found compiled step member with
  | check fieldMember row => cases nested
  | @nested field fieldMember kind rule other further =>
      have same : inner = other := by
        rcases inner with ⟨record, namespaceName, steps⟩
        rcases other with ⟨otherRecord, otherName, otherSteps⟩
        cases nested
        rfl
      have named := Compiler.plan_record (Compiler.planned?_of_compile further)
      rw [same, named]
      exact further

/-- A plan at each depth is compiled from the record that it names. -/
theorem compile_of_nests_reflTransGen
    (compiled : (Compiler.ofSchema schema).compile plan.record = .ok (some plan))
    (reaches : ReflTransGen Plan.Nests plan inner) :
    (Compiler.ofSchema schema).compile inner.record = .ok (some inner) := by
  induction reaches with
  | refl => exact compiled
  | tail _ nests inductionHypothesis => exact compile_of_nests inductionHypothesis nests

/-- A first step that is no check nests a plan with a check. -/
theorem exists_check_of_compile
    (compiled : (Compiler.ofSchema schema).compile plan.record = .ok (some plan)) :
    ∃ deepest, ReflTransGen Plan.Nests plan deepest ∧ deepest.HasCheck := by
  induction plan using Plan.nests_wellFounded.induction with
  | _ plan inductionHypothesis =>
      obtain ⟨record, found, -⟩ := Compiler.compile_ok_iff.1 compiled
      obtain ⟨step, member⟩ := List.exists_mem_of_ne_nil _ (steps_ne_nil_of_compile compiled)
      cases stepOf_of_compile found compiled step member with
      | check fieldMember row => exact ⟨plan, .refl, _, _, member⟩
      | @nested field fieldMember kind rule inner further =>
          have nests : plan.Nests inner := ⟨_, member⟩
          obtain ⟨deepest, reaches, check⟩ :=
            inductionHypothesis inner nests (compile_of_nests compiled nests)
          exact ⟨deepest, .head nests reaches, check⟩

/-! ### Sets of plans -/

/-- The set has the plan of each record under the name of the record. -/
theorem plan?_of_compile (whole : (Compiler.ofSchema schema).compileAll = .ok set)
    (compiled : (Compiler.ofSchema schema).compile plan.record = .ok (some plan)) :
    set.plan? plan.record = some plan := by
  obtain ⟨record, found, -⟩ := Compiler.compile_ok_iff.1 compiled
  have stored := Compiler.compile_eq_plan? whole (List.mem_of_find?_eq_some found)
  rw [Schema.record?_name found, compiled] at stored
  exact (Except.ok.inj stored).symm

/-- The plans at all depths are plans of the set. -/
theorem plan?_of_reaches (whole : (Compiler.ofSchema schema).compileAll = .ok set)
    (member : plan ∈ set.plans) (reaches : ReflTransGen Plan.Nests plan inner) :
    set.plan? inner.record = some inner :=
  plan?_of_compile whole
    (compile_of_nests_reflTransGen (Compiler.compile_of_mem whole member) reaches)

/-- The names of the plans follow their nesting, since each name has one plan. -/
theorem nests_names_wellFounded (whole : (Compiler.ofSchema schema).compileAll = .ok set) :
    WellFounded fun target name => set.Nests name target := by
  refine Subrelation.wf (r := fun target name : String =>
    ((set.plan? target).map fun plan => sizeOf plan.steps).getD 0 <
      ((set.plan? name).map fun plan => sizeOf plan.steps).getD 0) ?_ (measure _).wf
  rintro target name ⟨plan, inner, planned, nests, rfl⟩
  have member : plan ∈ set.plans := List.mem_of_find?_eq_some planned
  have stored := plan?_of_reaches whole member (.single nests)
  simpa [planned, stored] using Plan.sizeOf_nests nests

end

end FieldRules
