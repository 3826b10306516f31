import FieldRules.Proofs.Generator.Instance
import FieldRules.Proofs.Pattern.Cache
import FieldRules.Proofs.Plan.Adequacy
import FieldRules.Proofs.Plan.Whole
import FieldRules.Proofs.Text.Numeral

/-!
This file shows that generated validators agree with their plans. On each value that fits a record,
the calls of the emitted body give the report that the plan of the record gives on the data.
-/

namespace FieldRules

namespace Emitted

open Text

/-! ### Checks -/

section

variable {schema : Schema} {record : Record} {members : Members} {field : Field}

/-- A text field of a fitting record is a text. -/
theorem MembersFit.text (fit : MembersFit schema record members) (member : field ∈ record.fields)
    (kind : field.kind = .text) :
    ∃ value, Value.find? members field.name = some (.text value) ∧
      (Data.table (Value.toTable members)).member? field.name = some (.text value) := by
  obtain ⟨value, found, fits⟩ := fit field member
  rw [Value.member?_toTable, found]
  cases fits with
  | text _ value => exact ⟨value, rfl, rfl⟩
  | _ other => simp [kind] at other

theorem MembersFit.integer (fit : MembersFit schema record members)
    (member : field ∈ record.fields) (kind : field.kind = .integer) :
    ∃ value, Value.find? members field.name = some (.integer value) ∧
      (Data.table (Value.toTable members)).member? field.name = some (.integer value) := by
  obtain ⟨value, found, fits⟩ := fit field member
  rw [Value.member?_toTable, found]
  cases fits with
  | integer _ value => exact ⟨value, rfl, rfl⟩
  | _ other => simp [kind] at other

end

/-- A signed number fits in a word, without a sign if it is natural. -/
theorem contains_of_integerIn? {text : List Char} {value : Int}
    (spelled : integerIn? (.signed 64) text = some value) :
    (IntegerRange.eitherSign 64).contains value = true ∧
      (0 ≤ value → (IntegerRange.unsigned 64).contains value = true) := by
  have fits := (Option.filter_eq_some_iff.1 spelled).2
  rw [IntegerRange.contains_iff] at fits
  rw [IntegerRange.contains_iff, IntegerRange.contains_iff]
  have low : (IntegerRange.eitherSign 64).low = (IntegerRange.signed 64).low := rfl
  have high : (IntegerRange.eitherSign 64).high = (IntegerRange.unsigned 64).high := rfl
  have least : (IntegerRange.unsigned 64).low = 0 := rfl
  have wider : (IntegerRange.signed 64).high ≤ (IntegerRange.unsigned 64).high := by decide
  omega

/-- The call of a check has the outcome that the check has on the data. -/
theorem checkCall_agrees {schema : Schema} {record : Record} {members : Members} {field : Field}
    {rule : Rule} {test : FieldCheck} {cache : Pattern.Cache}
    (fit : MembersFit schema record members) (member : field ∈ record.fields)
    (row : RuleTable record field rule (.check test)) (reached : cache.Reached) :
    ∃ function arguments last, checkCall field.name test = .check function arguments ∧
      last.Reached ∧ outcome? members cache function arguments =
        some (test.run (field.site rule) (.table (Value.toTable members)), last) := by
  cases row with
  | required kind | email kind | url kind | ip kind =>
      obtain ⟨value, found, present⟩ := fit.text member kind
      refine ⟨_, _, cache, rfl, reached, ?_⟩
      rw [FieldCheck.run_of_text (fun _ => rfl) present]
      simp only [outcome?, Argument.text?, found, Field.site, Option.bind_eq_bind, Option.bind_some]
  | regex kind argument pattern compiled =>
      obtain ⟨value, found, present⟩ := fit.text member kind
      refine ⟨_, _, (cache.compile? argument).2, rfl, reached.lookup _ _, ?_⟩
      simp only [outcome?, Argument.text?, found, FieldCheck.run, Field.site, Data.fieldValue,
        present, checkRead, Data.textIn, Option.bind_eq_bind, Option.bind_some,
        Pattern.text_of_compile? compiled, Check.satisfiesFrom_eq reached compiled]
  | minLength kind argument bound spelled | maxLength kind argument bound spelled =>
      obtain ⟨value, found, present⟩ := fit.text member kind
      refine ⟨_, _, cache, rfl, reached, ?_⟩
      have fits := (contains_of_integerIn? spelled).2 (by omega)
      simp only [outcome?, Argument.text?, Argument.length?, found, fits, FieldCheck.run,
        Field.site, Data.fieldValue, present, checkRead, Data.textIn, Option.bind_eq_bind,
        Option.bind_some, if_true, Int.toNat_natCast]
  | minValue kind argument bound spelled _ | maxValue kind argument bound spelled _ =>
      obtain ⟨value, found, present⟩ := fit.integer member kind
      refine ⟨_, _, cache, rfl, reached, ?_⟩
      have fits := (contains_of_integerIn? spelled).1
      simp only [outcome?, Argument.text?, Argument.integer?, found, fits, FieldCheck.run,
        Field.site, Data.fieldValue, present, checkRead, Data.integerIn, Option.bind_eq_bind,
        Option.bind_some, if_true]
      rfl
  | equals kind target other sought sameKind agrees =>
      have otherMember : other ∈ record.fields := List.mem_of_find?_eq_some sought
      have named : other.name = target := by simpa using List.find?_some sought
      subst named
      refine ⟨_, _, cache, rfl, reached, ?_⟩
      rcases kind with kind | kind
      · obtain ⟨value, found, present⟩ := fit.text member kind
        obtain ⟨sibling, otherFound, otherPresent⟩ := fit.text otherMember (sameKind.trans kind)
        simp [outcome?, Argument.text?, Argument.value?, equality?, found, otherFound,
          FieldCheck.run, Field.site, Data.fieldValue, present, otherPresent, checkRead,
          equalFields, Data.textIn, kind]
      · obtain ⟨value, found, present⟩ := fit.integer member kind
        obtain ⟨sibling, otherFound, otherPresent⟩ := fit.integer otherMember (sameKind.trans kind)
        simp [outcome?, Argument.text?, Argument.value?, equality?, found, otherFound,
          FieldCheck.run, Field.site, Data.fieldValue, present, otherPresent, checkRead,
          equalFields, Data.integerIn, kind]

/-! ### Bodies -/

/-- The body of each record type is read from the text of its plan. -/
def bodies (set : PlanSet) (config : GeneratorConfig) : Bodies := fun name =>
  match set.plan? name with
  | none => none
  | some plan =>
      match plan.body config with
      | .error _ => none
      | .ok body => readBody? config.runtimePath body

/-- All plans of the set have a text. -/
def Emits (set : PlanSet) (config : GeneratorConfig) : Prop :=
  ∀ plan ∈ set.plans, ∃ body, plan.body config = .ok body

theorem bodies_of_plan? {set : PlanSet} {config : GeneratorConfig} (emits : Emits set config)
    {name : String} {plan : Plan} (planned : set.plan? name = some plan) :
    bodies set config name = some (plan.steps.map fun step => statementCall step.statement) := by
  obtain ⟨body, written⟩ := emits plan (List.mem_of_find?_eq_some planned)
  rw [bodies, planned]
  dsimp only
  rw [written]
  exact readBody?_body written

/-- The body of a type runs on members as its plan runs on their data. -/
def RunsAs (bodies : Bodies) (name : String) (plan : Plan) (members : Members) : Prop :=
  ∀ cache : Pattern.Cache, cache.Reached → ∃ last : Pattern.Cache, last.Reached ∧
    Value.validate bodies (.record name members) cache =
      some (plan.execute (.table (Value.toTable members)), last)

/-- All bodies run as their plans on members that are smaller than these. -/
def RunsBelow (schema : Schema) (bodies : Bodies) (members : Members) : Prop :=
  ∀ inner : Members, sizeOf inner < sizeOf members → ∀ name record plan,
    schema.record? name = some record → (Compiler.ofSchema schema).compile name = .ok (some plan) →
      MembersFit schema record inner → RunsAs bodies name plan inner

section

variable {schema : Schema} {record : Record} {bodies : Bodies} {members : Members}
  {cache : Pattern.Cache}

/-- The value of a nested field has the report that a descent into the field has. -/
theorem validate_agrees {field : Field} {value : Value} (rule : Rule) {plan : Plan}
    (below : RunsBelow schema bodies members) (kind : field.kind = .nested)
    (compiled : (Compiler.ofSchema schema).compile field.typeName = .ok (some plan))
    (found : Value.find? members field.name = some value) (fits : Value.Fits schema field value)
    (reached : cache.Reached) :
    ∃ last : Pattern.Cache, last.Reached ∧ value.validate bodies cache =
      some (Step.run (.table (Value.toTable members))
        (.nested (field.site rule) plan.record plan.namespaceName plan.steps), last) := by
  have present : (Data.table (Value.toTable members)).member? (field.site rule).field =
      some value.toData := by
    rw [Field.site, Value.member?_toTable, found, Option.map_some]
  rw [Step.run, present]
  cases fits with
  | absent =>
      refine ⟨cache, reached, ?_⟩
      rw [Value.validate]
      rfl
  | @record _ _ nested known inner inside fits =>
      have smaller := sizeOf_lastMember found
      rw [Value.record.sizeOf_spec] at smaller
      have fit : MembersFit schema nested inner := by
        intro field member
        obtain ⟨value, found⟩ := Option.isSome_iff_exists.1 (inside field member)
        exact ⟨value, found, fits field member value found⟩
      exact below inner (by omega) _ _ _ known compiled fit cache reached
  | unknown _ missing =>
      obtain ⟨nested, known, -⟩ := Compiler.compile_ok_iff.1 compiled
      cases missing.symm.trans known
  | text other | integer other | other other => simp [kind] at other

/-- A call of a nested record appends the report of the value of the field. -/
theorem runCalls_validate {field : String} {value : Value} {report : Report}
    {after : Pattern.Cache} (found : Value.find? members field = some value)
    (validated : value.validate bodies cache = some (report, after)) (calls : List Call)
    (result : Report) :
    runCalls bodies members (.validate field :: calls) result cache =
      runCalls bodies members calls (result.append report) after := by
  rw [runCalls]
  split
  · next missing => cases missing.symm.trans found
  · next other known =>
      cases known.symm.trans found
      rw [validated]

/-- Calls add the report of their steps if the nested bodies run as their plans. -/
theorem runCalls_agrees (fit : MembersFit schema record members)
    (below : RunsBelow schema bodies members) {steps : List Step}
    (origin : ∀ step ∈ steps, StepOf schema record step) (result : Report)
    (reached : cache.Reached) :
    ∃ last : Pattern.Cache, last.Reached ∧
      runCalls bodies members (steps.map fun step => statementCall step.statement) result cache =
        some (result.append (Step.runAll (.table (Value.toTable members)) steps), last) := by
  induction steps generalizing result cache with
  | nil =>
      refine ⟨cache, reached, ?_⟩
      rw [List.map_nil, runCalls, Step.runAll, Report.append_success]
  | cons step steps inductionHypothesis =>
      have others := fun other member => origin other (List.mem_cons_of_mem _ member)
      rw [List.map_cons, Step.runAll, ← Report.append_assoc]
      cases origin step List.mem_cons_self with
      | @check field member rule test row =>
          obtain ⟨function, arguments, after, called, reached, outcome⟩ :=
            checkCall_agrees fit member row reached
          have call : statementCall (Step.check (field.site rule) test).statement =
              .check function arguments := called
          obtain ⟨last, reached, rest⟩ := inductionHypothesis others (result.push _) reached
          refine ⟨last, reached, ?_⟩
          rw [call, runCalls, outcome]
          dsimp only
          rw [rest, Report.push_eq_append, Step.run]
      | @nested field member kind rule plan compiled =>
          obtain ⟨value, found, fits⟩ := fit field member
          obtain ⟨after, reached, validated⟩ :=
            validate_agrees rule below kind compiled found fits reached
          obtain ⟨last, reached, rest⟩ := inductionHypothesis others (result.append _) reached
          refine ⟨last, reached, ?_⟩
          rw [Step.statement, statementCall]
          exact (runCalls_validate found validated _ result).trans rest

end

/-- The emitted body of each record runs as the plan of the record. -/
theorem body_runsAs {schema : Schema} {config : GeneratorConfig} {set : PlanSet}
    (compiled : (Compiler.ofSchema schema).compileAll = .ok set) (emits : Emits set config)
    {name : String} {record : Record} {plan : Plan} (found : schema.record? name = some record)
    (planned : (Compiler.ofSchema schema).compile name = .ok (some plan)) (members : Members)
    (fit : MembersFit schema record members) : RunsAs (bodies set config) name plan members := by
  have below : RunsBelow schema (bodies set config) members :=
    fun inner _ name record plan found planned fit =>
      body_runsAs compiled emits found planned inner fit
  intro cache reached
  have named := Schema.record?_name found
  have stored := Compiler.compile_eq_plan? compiled (List.mem_of_find?_eq_some found)
  rw [named, planned] at stored
  have body := bodies_of_plan? emits (Except.ok.inj stored).symm
  obtain ⟨last, reached, run⟩ :=
    runCalls_agrees fit below (stepOf_of_compile found planned) .success reached
  refine ⟨last, reached, ?_⟩
  rw [Value.validate, body]
  dsimp only
  rw [run, Plan.execute, Report.success_append]
termination_by sizeOf members

/-- Data that fit a record have a live value with the report of the plan. -/
theorem validate_of_dataFit {schema : Schema} {config : GeneratorConfig} {set : PlanSet}
    (compiled : (Compiler.ofSchema schema).compileAll = .ok set) (emits : Emits set config)
    (distinct : ∀ record ∈ schema.records, DistinctFields record) {plan : Plan}
    (member : plan ∈ set.plans) {record : Record} (found : schema.record? plan.record = some record)
    {table : List (String × Data)}
    (fit : ∀ field ∈ record.fields, ∃ data, (Data.table table).member? field.name = some data ∧
      DataFit schema field data) :
    ∃ members, Value.toTable members = table ∧ ∀ cache : Pattern.Cache, cache.Reached →
      ∃ last : Pattern.Cache, last.Reached ∧
        Value.validate (bodies set config) (.record plan.record members) cache =
          some (plan.execute (.table table), last) := by
  have planned := Compiler.compile_of_mem compiled member
  obtain ⟨members, rfl, fits⟩ :=
    membersFit_of_dataFit distinct (List.mem_of_find?_eq_some found) fit
  exact ⟨members, rfl, body_runsAs compiled emits found planned members fits⟩

/-- The text of each body reads as calls that give the report of its plan. -/
theorem generation_agrees_with_interpretation {schema : Schema} {config : GeneratorConfig}
    {set : PlanSet} (compiled : (Compiler.ofSchema schema).compileAll = .ok set)
    (emits : Emits set config) {plan : Plan} (member : plan ∈ set.plans) :
    ∃ record, schema.record? plan.record = some record ∧
      ∀ members, MembersFit schema record members → ∀ cache : Pattern.Cache, cache.Reached →
        ∃ last : Pattern.Cache, last.Reached ∧
          Value.validate (bodies set config) (.record plan.record members) cache =
            some (plan.execute (Value.toData (.record plan.record members)), last) := by
  have planned := Compiler.compile_of_mem compiled member
  obtain ⟨record, found, -⟩ := Compiler.compile_ok_iff.1 planned
  exact ⟨record, found, body_runsAs compiled emits found planned⟩

theorem compileAll_purchase :
    (Compiler.ofSchema purchaseSchema).compileAll = .ok ⟨[purchasePlan, placePlan]⟩ := by
  have names : (Compiler.ofSchema purchaseSchema).names = ["Purchase", "Place"] := by rfl
  apply Compiler.compileAll_of_plans
  rw [names]
  exact .cons compile_purchase (.cons compile_place .nil)

theorem purchase_emits : Emits ⟨[purchasePlan, placePlan]⟩ .default := by
  intro plan member
  rcases List.mem_pair.1 member with rfl | rfl
  · exact ⟨_, rfl⟩
  · exact ⟨_, rfl⟩

/-- A purchase without a buyer that goes to a place without a town. -/
def barePurchase : Members :=
  [("buyer", .text ""), ("place", .record "Place" [("town", .text "")])]

theorem barePurchase_fit : MembersFit purchaseSchema purchase barePurchase := by
  intro field member
  rcases List.mem_pair.1 member with rfl | rfl
  · exact ⟨_, rfl, .text rfl _⟩
  · refine ⟨_, rfl, .record rfl rfl _ ?_ ?_⟩
    · intro inner member
      rw [List.mem_singleton.1 member]
      rfl
    · intro inner member value found
      rw [List.mem_singleton.1 member] at found ⊢
      cases found
      exact .text rfl _

theorem generation_agrees_with_interpretation_of_purchase :
    (Compiler.ofSchema purchaseSchema).compileAll = .ok ⟨[purchasePlan, placePlan]⟩ ∧
    Emits ⟨[purchasePlan, placePlan]⟩ .default ∧
    MembersFit purchaseSchema purchase barePurchase ∧ ∃ last : Pattern.Cache,
      Value.validate (bodies ⟨[purchasePlan, placePlan]⟩ .default) (.record "Purchase" barePurchase)
        [] = some (purchasePlan.execute (Value.toData (.record "Purchase" barePurchase)), last) := by
  refine ⟨compileAll_purchase, purchase_emits, barePurchase_fit, ?_⟩
  obtain ⟨record, found, agrees⟩ := generation_agrees_with_interpretation compileAll_purchase
    purchase_emits (show purchasePlan ∈ [purchasePlan, placePlan] from List.mem_cons_self)
  have same : purchase = record := Option.some.inj found
  subst same
  obtain ⟨last, -, run⟩ := agrees barePurchase barePurchase_fit [] .empty
  exact ⟨last, run⟩

end Emitted

end FieldRules
