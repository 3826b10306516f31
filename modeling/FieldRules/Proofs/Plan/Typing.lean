import FieldRules.Proofs.Generator.Instance
import FieldRules.Proofs.Plan.Adequacy

/-!
This file shows that plans are typed. Data of the declared kinds fail by their values only: at no
depth is a field missing, has a value the wrong shape or lacks a nested record its plan.
-/

namespace FieldRules

open Emitted (DataFit)

/-- Data fit a record if they have its fields with their kinds. -/
def RecordFit (schema : Schema) (record : Record) (data : Data) : Prop :=
  ∀ field ∈ record.fields, ∃ value, data.member? field.name = some value ∧
    DataFit schema field value

/-- The codes of the checks of values. -/
def valueCodes : List String :=
  ["not_empty", "email", "url", "ip", "regex", "min", "max", "equals"]

/-- The codes of data that a plan cannot read. -/
def shapeCodes : List String :=
  ["type_mismatch", "missing_field", "unresolved_record"]

/-- All messages of the report are about values. -/
def Report.FailsByValue (report : Report) : Prop :=
  ∀ message ∈ report.messages, message.code ∈ valueCodes

/-! ### Checks -/

section

variable {schema : Schema} {record : Record} {field : Field} {rule : Rule} {test : FieldCheck}

/-- Only texts and integers are checked. -/
theorem RuleTable.kind_of_check (row : RuleTable record field rule (.check test)) :
    field.kind = .text ∨ field.kind = .integer := by
  cases row with
  | equals kind target other found sameKind agrees => exact kind
  | minValue kind argument bound spelled fits | maxValue kind argument bound spelled fits =>
      exact .inr kind
  | required kind | email kind | url kind | ip kind => exact .inl kind
  | regex kind argument pattern compiled => exact .inl kind
  | minLength kind argument bound spelled | maxLength kind argument bound spelled =>
      exact .inl kind

/-- The sibling of a comparison is a field of the record and has the same kind. -/
theorem RuleTable.sibling_of_check (row : RuleTable record field rule (.check test))
    {target : String} (asked : rule = ⟨"equals", some target⟩) :
    ∃ other ∈ record.fields, other.name = target ∧ other.kind = field.kind := by
  obtain ⟨other, found, sameKind, -⟩ := row.sibling_of_equals asked
  exact ⟨other, List.mem_of_find?_eq_some found, by simpa using List.find?_some found, sameKind⟩

/-- A check that fails on a value has a code of its own. -/
theorem RuleTable.code_mem (row : RuleTable record field rule (.check test)) :
    rule.code ∈ valueCodes := by
  cases row <;> simp [Rule.code, valueCodes]

/-- Data of the kind of a checked field are accepted by the field. -/
theorem accepts_of_dataFit {value : Data} (fit : DataFit schema field value)
    (checked : field.kind = .text ∨ field.kind = .integer) : field.kind.accepts value = true := by
  cases fit with
  | text kind value => rw [kind, Kind.accepts]
  | integer kind value word => rw [kind, Kind.accepts]
  | absent kind | table kind | other kind => simp [kind] at checked

/-- If the data fit the record, a check reports nothing but a failed test. -/
theorem code_of_reported {data : Data} {message : Message} (fit : RecordFit schema record data)
    (member : field ∈ record.fields) (row : RuleTable record field rule (.check test))
    (reported : Fault.Reported ⟨data, field, rule⟩ message) : message.code ∈ valueCodes := by
  cases reported with
  | missing absent =>
      obtain ⟨value, present, -⟩ := fit field member
      cases absent.symm.trans present
  | mismatch found present refused =>
      obtain ⟨value, other, typed⟩ := fit field member
      cases present.symm.trans other
      cases refused.symm.trans (accepts_of_dataFit typed row.kind_of_check)
  | siblingMissing target asked absent =>
      obtain ⟨other, otherMember, rfl, -⟩ := row.sibling_of_check asked
      obtain ⟨value, present, -⟩ := fit other otherMember
      cases absent.symm.trans present
  | siblingMismatch target asked found present refused =>
      obtain ⟨other, otherMember, rfl, sameKind⟩ := row.sibling_of_check asked
      obtain ⟨value, known, typed⟩ := fit other otherMember
      cases present.symm.trans known
      have accepted := accepts_of_dataFit typed (sameKind ▸ row.kind_of_check)
      rw [sameKind] at accepted
      cases refused.symm.trans accepted
  | failed found present accepted text => exact row.code_mem

theorem check_failsByValue {data : Data} (fit : RecordFit schema record data)
    (member : field ∈ record.fields) (row : RuleTable record field rule (.check test)) :
    (Step.run data (.check (field.site rule) test)).FailsByValue := by
  intro message inside
  rw [Step.run, Report.ofOutcome_messages] at inside
  have answers := run_answers row data
  generalize test.run (field.site rule) data = outcome at answers inside
  generalize rule.holds field data = passes at answers
  cases answers with
  | pass => cases inside
  | fail message reported =>
      rw [Option.toList_some, List.mem_singleton] at inside
      rw [inside]
      exact code_of_reported fit member row reported

end

/-! ### Plans -/

/-- The plans of the schema are typed on all data that are smaller than these. -/
def TypedBelow (schema : Schema) (data : Data) : Prop :=
  ∀ smaller, sizeOf smaller < sizeOf data → ∀ name record plan,
    schema.record? name = some record → (Compiler.ofSchema schema).compile name = .ok (some plan) →
      RecordFit schema record smaller → (plan.execute smaller).FailsByValue

/-- A descent into a field that fits its record fails by values only. -/
theorem nested_failsByValue {schema : Schema} {field : Field} {data value : Data} {plan : Plan}
    (below : TypedBelow schema data) (present : data.member? field.name = some value)
    (kind : field.kind = .nested) (fit : DataFit schema field value)
    (compiled : (Compiler.ofSchema schema).compile field.typeName = .ok (some plan)) (rule : Rule) :
    (Step.run data
      (.nested (field.site rule) plan.record plan.namespaceName plan.steps)).FailsByValue := by
  have sought : data.member? (field.site rule).field = some value := present
  rw [Step.run, sought]
  cases fit with
  | absent => exact fun message inside => by cases inside
  | table _ table inside fits =>
      obtain ⟨nested, found, -⟩ := Compiler.compile_ok_iff.1 compiled
      refine below _ (Data.sizeOf_member? present) _ nested plan found compiled ?_
      intro inner member
      obtain ⟨data, known⟩ := Option.isSome_iff_exists.1 (inside nested found inner member)
      exact ⟨data, known, fits nested found inner member data known⟩
  | text other | integer other | other other => simp [kind] at other

theorem steps_failByValue {schema : Schema} {record : Record} {data : Data} {steps : List Step}
    (below : TypedBelow schema data) (fit : RecordFit schema record data)
    (origin : ∀ step ∈ steps, StepOf schema record step) :
    (Step.runAll data steps).FailsByValue := by
  intro message inside
  rw [Step.runAll_messages, List.mem_flatMap] at inside
  obtain ⟨step, member, inside⟩ := inside
  cases origin step member with
  | check fieldMember row => exact check_failsByValue fit fieldMember row message inside
  | @nested field fieldMember kind rule plan compiled =>
      obtain ⟨value, present, typed⟩ := fit field fieldMember
      exact nested_failsByValue below present kind typed compiled rule message inside

/-- The nested data are smaller, so the plans below are typed. -/
theorem typedBelow (schema : Schema) (data : Data) : TypedBelow schema data := by
  intro smaller less name record plan found compiled fit
  exact steps_failByValue (typedBelow schema smaller) fit (stepOf_of_compile found compiled)
termination_by sizeOf data

/-- On data that fit, a plan gives only messages about values. -/
theorem fitting_data_fail_by_value {schema : Schema} {record : Record} {plan : Plan}
    (compiled : (Compiler.ofSchema schema).compileRecord record = .ok (some plan)) {data : Data}
    (fit : RecordFit schema record data) :
    ∀ message ∈ (plan.execute data).messages,
      message.code ∈ valueCodes ∧ message.code ∉ shapeCodes := by
  have origin := stepOf_of_directBuild (Compiler.directBuild_of_compileRecord compiled)
  intro message inside
  have code := steps_failByValue (typedBelow schema data) fit origin message inside
  have apart : ∀ code ∈ valueCodes, code ∉ shapeCodes := by decide
  exact ⟨code, apart _ code⟩

/-- A purchase without a buyer that goes to a place without a town. -/
def anonymousPurchase : Data :=
  .table [("buyer", .text ""), ("place", .table [("town", .text "")])]

theorem anonymousPurchase_fit : RecordFit purchaseSchema purchase anonymousPurchase := by
  intro field member
  rcases List.mem_pair.1 member with rfl | rfl
  · exact ⟨_, rfl, .text rfl _⟩
  · refine ⟨_, rfl, .table rfl _ ?_ ?_⟩
    · intro nested found inner member
      cases found
      rw [List.mem_singleton.1 member]
      rfl
    · intro nested found inner member data present
      cases found
      rw [List.mem_singleton.1 member] at present ⊢
      cases present
      exact .text rfl _

theorem fitting_data_fail_by_value_of_purchase :
    (Compiler.ofSchema purchaseSchema).compileRecord purchase = .ok (some purchasePlan) ∧
    RecordFit purchaseSchema purchase anonymousPurchase ∧
    (purchasePlan.execute anonymousPurchase).messages.map Message.code = ["not_empty", "not_empty"] ∧
    ∀ message ∈ (purchasePlan.execute anonymousPurchase).messages,
      message.code ∈ valueCodes ∧ message.code ∉ shapeCodes := by
  exact ⟨compileRecord_purchase, anonymousPurchase_fit, rfl,
    fitting_data_fail_by_value compileRecord_purchase anonymousPurchase_fit⟩

end FieldRules
