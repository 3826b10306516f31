import FieldRules.Proofs.Plan.Adequacy
import FieldRules.Proofs.Plan.Closure
import FieldRules.Proofs.Plan.Loop

/-!
This file says which rules a plan lists. The sites of its steps are the rules of the record in their
order, without those that descend into records that have no plan. A record has no plan if no record
that its nesting reaches asks for a check.
-/

namespace FieldRules

open Relation

/-- A rule is left out if it descends into a record without a plan. -/
def Field.leavesOut (schema : Schema) (field : Field) (rule : Rule) : Bool :=
  match (Compiler.ofSchema schema).compile field.typeName with
  | .ok none => rule.Descends
  | _ => false

/-- The sites of the rules that a plan of the record lists. -/
def Record.listedSites (schema : Schema) (record : Record) : List Site :=
  record.fields.flatMap fun field =>
    (field.rules.filter fun rule => !field.leavesOut schema rule).map field.site

/-- A rule of the record checks a field itself. -/
def Record.DeclaresCheck (record : Record) : Prop :=
  ∃ field ∈ record.fields, ∃ rule ∈ field.rules, ¬rule.Descends

section

variable {schema : Schema} {record : Record} {field : Field} {rule : Rule}

theorem Field.leavesOut_iff : field.leavesOut schema rule = true ↔
    rule.Descends ∧ (Compiler.ofSchema schema).compile field.typeName = .ok none := by
  rw [leavesOut]
  split
  · next planless => simp [planless]
  · next others => simpa using fun _ => others

theorem Record.listedSites_eq_nil_iff : record.listedSites schema = [] ↔
    ∀ field ∈ record.fields, ∀ rule ∈ field.rules, field.leavesOut schema rule = true := by
  simp [listedSites, List.flatMap_eq_nil_iff, List.filter_eq_nil_iff]

/-! ### Sites -/

theorem sites_of_ruleSteps {part : List Step} (steps : RuleSteps schema record field rule part) :
    part.map Step.site = if field.leavesOut schema rule then [] else [field.site rule] := by
  cases steps with
  | check row =>
      have kept : ¬field.leavesOut schema rule = true :=
        fun left => row.not_descends (Field.leavesOut_iff.1 left).1
      rw [if_neg kept]
      rfl
  | @nested row nested plan found compiled =>
      cases plan with
      | none =>
          have left : field.leavesOut schema rule = true :=
            Field.leavesOut_iff.2 ⟨row.eq_descend_iff.1 rfl, compiled⟩
          rw [if_pos left]
          rfl
      | some plan =>
          have kept : ¬field.leavesOut schema rule = true := by
            rw [Field.leavesOut_iff, compiled]
            simp
          rw [if_neg kept]
          rfl

theorem sites_of_directField {part : List Step}
    (visited : (Compiler.ofSchema schema).directField (Compiler.ofSchema schema).compile record
      field = .ok part) :
    part.map Step.site =
      (field.rules.filter fun rule => !field.leavesOut schema rule).map field.site := by
  refine joinSteps_induction (motive := fun rules steps => steps.map Step.site =
    (rules.filter fun rule => !field.leavesOut schema rule).map field.site)
    rfl ?_ (joinSteps_of_directField visited)
  intro rule rules part others ofRule rest
  rw [List.map_append, rest, sites_of_ruleSteps (ruleSteps_of_directRule ofRule), List.filter_cons]
  cases field.leavesOut schema rule <;> rfl

/-- The steps of a plan stand for the listed rules, one after the other. -/
theorem sites_of_directBuild {plan : Option Plan}
    (built : (Compiler.ofSchema schema).directBuild (Compiler.ofSchema schema).compile record =
      .ok plan) :
    (Plan.stepsOf plan).map Step.site = record.listedSites schema := by
  obtain ⟨steps, joined, rfl⟩ := Compiler.directBuild_ok_iff.1 built
  rw [Plan.stepsOf_plan?]
  refine joinSteps_induction (motive := fun fields steps => steps.map Step.site =
    fields.flatMap fun field =>
      (field.rules.filter fun rule => !field.leavesOut schema rule).map field.site)
    rfl ?_ joined
  intro field fields part others ofField rest
  rw [List.map_append, rest, sites_of_directField ofField, List.flatMap_cons]

end

/-! ### Records without a plan -/

section

variable {schema : Schema} {name : String} {record : Record} {plan : Option Plan}

theorem sites_of_compile (found : schema.record? name = some record)
    (compiled : (Compiler.ofSchema schema).compile name = .ok plan) :
    (Plan.stepsOf plan).map Step.site = record.listedSites schema := by
  obtain ⟨other, same, built⟩ := Compiler.compile_ok_iff.1 compiled
  cases same.symm.trans found
  exact sites_of_directBuild built

/-- A record has no plan if all its rules are left out. -/
theorem planless_iff_leavesOut (found : schema.record? name = some record)
    (compiled : (Compiler.ofSchema schema).compile name = .ok plan) :
    plan = none ↔
      ∀ field ∈ record.fields, ∀ rule ∈ field.rules, field.leavesOut schema rule = true := by
  rw [← Record.listedSites_eq_nil_iff, ← sites_of_compile found compiled, List.map_eq_nil_iff]
  cases plan with
  | none => exact iff_of_true rfl rfl
  | some plan => exact iff_of_false nofun (steps_ne_nil_of_compile compiled)

/-- Each rule that descends nests the record of its field. -/
theorem nests_of_descent (found : schema.record? name = some record)
    (compiled : (Compiler.ofSchema schema).compile name = .ok plan) {field : Field}
    (fieldMember : field ∈ record.fields) {rule : Rule} (ruleMember : rule ∈ field.rules)
    (descends : rule.Descends) : schema.Nests name field.typeName := by
  obtain ⟨other, same, built⟩ := Compiler.compile_ok_iff.1 compiled
  cases same.symm.trans found
  obtain ⟨read, each⟩ := ruleSteps_of_directBuild built fieldMember
  obtain ⟨part, ofRule⟩ := each rule ruleMember
  cases ofRule with
  | check row => exact absurd descends row.not_descends
  | nested row => exact ⟨record, found, nests_of_row fieldMember read ruleMember row⟩

/-- A record without a plan nests only records without plans. -/
theorem planless_of_nests (planless : (Compiler.ofSchema schema).compile name = .ok none)
    {target : String} (nests : schema.Nests name target) :
    (Compiler.ofSchema schema).compile target = .ok none := by
  obtain ⟨record, found, field, fieldMember, -, rfl, rules, read, rule, ruleMember, -⟩ := nests
  have inside : rule ∈ field.rules := by
    rw [Field.rules, read]
    exact ruleMember
  have left := (planless_iff_leavesOut found planless).1 rfl field fieldMember rule inside
  exact (Field.leavesOut_iff.1 left).2

theorem planless_of_reaches (planless : (Compiler.ofSchema schema).compile name = .ok none)
    {reached : String} (reaches : ReflTransGen schema.Nests name reached) :
    (Compiler.ofSchema schema).compile reached = .ok none := by
  induction reaches with
  | refl => exact planless
  | tail _ nests inductionHypothesis => exact planless_of_nests inductionHypothesis nests

theorem not_declaresCheck_of_planless (found : schema.record? name = some record)
    (planless : (Compiler.ofSchema schema).compile name = .ok none) : ¬record.DeclaresCheck := by
  rintro ⟨field, fieldMember, rule, ruleMember, check⟩
  have left := (planless_iff_leavesOut found planless).1 rfl field fieldMember rule ruleMember
  exact check (Field.leavesOut_iff.1 left).1

/-- Nesting ends, so the records that are nested have no plan before their own record. -/
theorem planless_of_checkless (compiled : (Compiler.ofSchema schema).compile name = .ok plan)
    (checkless : ∀ reached other, ReflTransGen schema.Nests name reached →
      schema.record? reached = some other → ¬other.DeclaresCheck) : plan = none := by
  have ends := Compiler.nests_acc compiled
  induction ends generalizing plan with
  | intro name _ inductionHypothesis =>
      obtain ⟨record, found, -⟩ := Compiler.compile_ok_iff.1 compiled
      refine (planless_iff_leavesOut found compiled).2 fun field fieldMember rule ruleMember => ?_
      have descends : rule.Descends := by
        by_contra check
        exact checkless name record .refl found ⟨field, fieldMember, rule, ruleMember, check⟩
      have nests := nests_of_descent found compiled fieldMember ruleMember descends
      obtain ⟨nested, further⟩ :=
        Compiler.compile_of_descends compiled (Compiler.descends_of_nests compiled nests)
      have planless : nested = none := by
        refine inductionHypothesis field.typeName nests further fun reached other reaches => ?_
        exact checkless reached other (.head nests reaches)
      rw [planless] at further
      exact Field.leavesOut_iff.2 ⟨descends, further⟩

/-- A plan lists the declared rules in order, but for descents into records without plans. -/
theorem plan_lists_declared_rules (found : schema.record? name = some record)
    (compiled : (Compiler.ofSchema schema).compile name = .ok plan) :
    (∀ field ∈ record.fields, readTag field.name field.tag = .ok field.rules) ∧
    (Plan.stepsOf plan).map Step.site = record.listedSites schema ∧
    (∀ (field : Field) (rule : Rule), field.leavesOut schema rule = true ↔
      rule.Descends ∧ (Compiler.ofSchema schema).compile field.typeName = .ok none) ∧
    (plan = none ↔ ∀ reached other, ReflTransGen schema.Nests name reached →
      schema.record? reached = some other → ¬other.DeclaresCheck) := by
  refine ⟨fun field => readTag_of_compile found compiled, sites_of_compile found compiled,
    fun field rule => Field.leavesOut_iff, ?_, planless_of_checkless compiled⟩
  rintro rfl reached other reaches known
  exact not_declaresCheck_of_planless known (planless_of_reaches compiled reaches)

end

/-- A crate has a code and a wrap, of which nothing is checked. -/
def crate : Record :=
  ⟨"Crate", "store", [⟨"code", .text, "", "req, min(2) ,req"⟩, ⟨"wrap", .nested, "Wrap", "obj"⟩]⟩

def crateSchema : Schema :=
  ⟨[crate, ⟨"Wrap", "store", [⟨"label", .nested, "Tag", "validate"⟩]⟩, ⟨"Tag", "store", []⟩]⟩

def cratePlan : Plan :=
  ⟨"Crate", "store",
    [.check ⟨"code", .text, ⟨"req", none⟩⟩ .notEmpty,
      .check ⟨"code", .text, ⟨"min", some "2"⟩⟩ (.longerThan 2),
      .check ⟨"code", .text, ⟨"req", none⟩⟩ .notEmpty]⟩

theorem compile_crate :
    (Compiler.ofSchema crateSchema).compile "Crate" = .ok (some cratePlan) := by
  have tag : (Compiler.ofSchema crateSchema).compile "Tag" = .ok none :=
    Compiler.compile_ok_iff.2 ⟨_, rfl, rfl⟩
  have wrap : (Compiler.ofSchema crateSchema).compile "Wrap" = .ok none :=
    Compiler.compile_of_nested (by rfl) tag rfl
  exact Compiler.compile_of_nested (show _ = some crate from rfl) wrap rfl

theorem plan_lists_declared_rules_of_crate :
    crateSchema.record? "Crate" = some crate ∧
    (Compiler.ofSchema crateSchema).compile "Crate" = .ok (some cratePlan) ∧
    cratePlan.steps.map Step.site = crate.listedSites crateSchema ∧
    crate.occurrences.length = cratePlan.steps.length + 1 :=
  ⟨rfl, compile_crate, (plan_lists_declared_rules rfl compile_crate).2.1, rfl⟩

end FieldRules
