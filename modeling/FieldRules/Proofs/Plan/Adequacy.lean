import FieldRules.Proofs.Plan.Execution
import FieldRules.Proofs.Plan.Steps
import Mathlib.Data.List.Forall2

/-!
This file shows that a compiled plan means what the tags say. The plan of a record reports each fault
of the record with one message, in the order of the faults.
-/

namespace FieldRules

/-- An outcome reports the fault if and only if the rule does not hold. -/
inductive Answers (fault : Fault) : Outcome → Bool → Prop
  | pass : Answers fault none true
  | fail (message : Message) (reported : fault.Reported message) :
      Answers fault (some message) false

/-- An integer in a range is an integer. -/
theorem Text.integer?_of_integerIn? {range : IntegerRange} {text : List Char} {value : Int}
    (spelled : integerIn? range text = some value) : integer? text = some value :=
  (Option.filter_eq_some_iff.1 spelled).1

section

variable {data : Data} {field : Field} {rule : Rule}

/-- A test of an accepted value answers with the code of its rule. -/
theorem outcome_answers {found : Data} (present : data.member? field.name = some found)
    (accepted : field.kind.accepts found = true) (passes : Bool) (text : String) :
    Answers ⟨data, field, rule⟩ (Check.outcome passes field.name rule.code text) passes := by
  cases passes with
  | true => exact .pass
  | false => exact .fail _ (.failed found present accepted text)

/-- A check of a text answers a rule if it does so for each text. -/
theorem textCheck_answers (kind : field.kind = .text) {check : String → Outcome}
    (answers : ∀ value, data.member? field.name = some (.text value) →
      Answers ⟨data, field, rule⟩ (check value) (rule.holdsOfText data value)) :
    Answers ⟨data, field, rule⟩
      (checkRead (data.fieldValue field.name) fun value => checkRead (value.textIn field.name) check)
      (rule.holds field data) := by
  rw [Rule.holds, Data.fieldValue, kind]
  cases present : data.member? field.name with
  | none => exact .fail _ (.missing present)
  | some found =>
      cases found with
      | text value => exact answers value present
      | _ => exact .fail _ (kind ▸ .mismatch _ present (by rw [kind]; rfl))

/-- A check of an integer answers a rule if it does so for each integer. -/
theorem integerCheck_answers (kind : field.kind = .integer) {check : Int → Outcome}
    (answers : ∀ value, data.member? field.name = some (.integer value) →
      Answers ⟨data, field, rule⟩ (check value) (rule.holdsOfInteger data value)) :
    Answers ⟨data, field, rule⟩
      (checkRead (data.fieldValue field.name) fun value =>
        checkRead (value.integerIn field.name) check)
      (rule.holds field data) := by
  rw [Rule.holds, Data.fieldValue, kind]
  cases present : data.member? field.name with
  | none => exact .fail _ (.missing present)
  | some found =>
      cases found with
      | integer value => exact answers value present
      | _ => exact .fail _ (kind ▸ .mismatch _ present (by rw [kind]; rfl))

/-- A test of a text answers the rule that says the same of each text. -/
theorem textTest_answers (kind : field.kind = .text) {test : String → Bool} {text : String}
    (same : rule.holdsOfText data = test) :
    Answers ⟨data, field, rule⟩
      (checkRead (data.fieldValue field.name) fun value =>
        checkRead (value.textIn field.name) fun input =>
          Check.outcome (test input) field.name rule.code text)
      (rule.holds field data) := by
  refine textCheck_answers kind fun value present => ?_
  rw [same]
  exact outcome_answers present (by rw [kind]; rfl) _ _

/-- A test of an integer answers the rule that says the same of each integer. -/
theorem integerTest_answers (kind : field.kind = .integer) {test : Int → Bool} {text : String}
    (same : rule.holdsOfInteger data = test) :
    Answers ⟨data, field, rule⟩
      (checkRead (data.fieldValue field.name) fun value =>
        checkRead (value.integerIn field.name) fun input =>
          Check.outcome (test input) field.name rule.code text)
      (rule.holds field data) := by
  refine integerCheck_answers kind fun value present => ?_
  rw [same]
  exact outcome_answers present (by rw [kind]; rfl) _ _

/-- A rule of equal fields fails if the sibling is missing. -/
theorem holds_of_siblingMissing {target : String} (asked : rule = ⟨"equals", some target⟩)
    (absent : data.member? target = none) : rule.holds field data = false := by
  subst asked
  rw [Rule.holds]
  split
  · simp only [Rule.holdsOfText, absent]
  · simp only [Rule.holdsOfInteger, absent]
  · rfl

/-- Comparing two fields answers the rule that asks for it, of texts and of integers. -/
theorem equality_answers {target : String} (asked : rule = ⟨"equals", some target⟩)
    (kind : field.kind = .text ∨ field.kind = .integer) :
    Answers ⟨data, field, rule⟩ ((FieldCheck.equalsField target).run (field.site rule) data)
      (rule.holds field data) := by
  cases sought : data.member? target with
  | none =>
      rw [holds_of_siblingMissing asked sought]
      cases present : data.member? field.name with
      | none =>
          simp only [FieldCheck.run, Field.site, Data.fieldValue, present, checkRead]
          exact .fail _ (.missing present)
      | some found =>
          simp only [FieldCheck.run, Field.site, equalFields, Data.fieldValue, present, sought,
            checkRead, ite_self]
          exact .fail _ (.siblingMissing target asked sought)
  | some sibling =>
      have known : data.fieldValue target = .ok sibling := by rw [Data.fieldValue, sought]
      subst asked
      rcases kind with kind | kind
      · simp only [FieldCheck.run, Field.site, kind, equalFields, known]
        refine textCheck_answers kind fun value present => ?_
        simp only [Rule.holdsOfText, sought]
        cases sibling with
        | text other => exact outcome_answers present (by rw [kind]; rfl) _ _
        | _ => exact .fail _ (kind ▸ .siblingMismatch target rfl _ sought (by rw [kind]; rfl))
      · simp only [FieldCheck.run, Field.site, kind, equalFields, known]
        refine integerCheck_answers kind fun value present => ?_
        simp only [Rule.holdsOfInteger, sought]
        cases sibling with
        | integer other => exact outcome_answers present (by rw [kind]; rfl) _ _
        | _ => exact .fail _ (kind ▸ .siblingMismatch target rfl _ sought (by rw [kind]; rfl))

/-- Each check of the rule table answers its rule. -/
theorem run_answers {record : Record} {test : FieldCheck}
    (row : RuleTable record field rule (.check test)) (data : Data) :
    Answers ⟨data, field, rule⟩ (test.run (field.site rule) data) (rule.holds field data) := by
  cases row with
  | required kind | email kind | url kind | ip kind => exact textTest_answers kind rfl
  | regex kind argument pattern compiled =>
      refine textTest_answers kind ?_
      funext value
      simp only [Rule.holdsOfText, compiled, Option.any_some]
  | minLength kind argument bound spelled | maxLength kind argument bound spelled =>
      refine textTest_answers kind ?_
      funext value
      simp only [Rule.holdsOfText, Text.integer?_of_integerIn? spelled, Option.any_some,
        Int.ofNat_lt]
  | minValue kind argument bound spelled fits | maxValue kind argument bound spelled fits =>
      refine integerTest_answers kind ?_
      funext value
      simp only [Rule.holdsOfInteger, Text.integer?_of_integerIn? spelled, Option.any_some]
  | equals kind target other found sameKind agrees => exact equality_answers rfl kind

end

/-- The messages of the steps stand for the faults in a record of live data. -/
def Reports (data : Data) (faults : List Fault) (steps : List Step) : Prop :=
  List.Forall₂ Fault.Reported faults (steps.flatMap fun step => (step.run data).messages)

theorem Reports.append {data : Data} {faults others : List Fault} {steps further : List Step}
    (first : Reports data faults steps) (second : Reports data others further) :
    Reports data (faults ++ others) (steps ++ further) := by
  rw [Reports, List.flatMap_append]
  exact List.rel_append first second

/-- A check reports the fault of its rule, if the rule has one. -/
theorem check_reports {data : Data} {field : Field} {rule : Rule} {record : Record}
    {test : FieldCheck} (row : RuleTable record field rule (.check test)) (schema : Schema) :
    Reports data (rule.faults schema data field) [.check (field.site rule) test] := by
  have answers := run_answers row data
  rw [Rule.faults_of_check row.not_descends, Reports, List.flatMap_singleton, Step.run,
    Report.ofOutcome_messages]
  generalize test.run (field.site rule) data = outcome at answers ⊢
  generalize rule.holds field data = passes at answers ⊢
  cases answers with
  | pass => exact .nil
  | fail message reported => exact .cons reported .nil

/-- A descent reports the faults of the nested record, if the nested plan does. -/
theorem nested_reports {schema : Schema} {data : Data} {field : Field} {rule : Rule}
    {nested : Record} {plan : Option Plan} (kind : field.kind = .nested) (descends : rule.Descends)
    (found : schema.record? field.typeName = some nested)
    (compiled : (Compiler.ofSchema schema).compile field.typeName = .ok plan)
    (below : ∀ smaller, sizeOf smaller < sizeOf data →
      List.Forall₂ Fault.Reported (nested.faults schema smaller) (Plan.report plan smaller).messages) :
    Reports data (rule.faults schema data field) (nestedSteps (field.site rule) plan) := by
  cases plan with
  | none =>
      rw [Rule.faults_of_planless descends compiled]
      exact .nil
  | some plan =>
      rw [Rule.faults_of_descent descends found compiled, nestedSteps, Reports,
        List.flatMap_singleton, Step.run]
      dsimp only [Field.site]
      cases present : data.member? field.name with
      | none => exact .cons (.missing present) .nil
      | some value =>
          cases value with
          | null => exact .nil
          | table members => exact below _ (Data.sizeOf_member? present)
          | _ =>
              rw [← kind]
              exact .cons (.mismatch _ present (by rw [kind]; rfl)) .nil

section

variable {schema : Schema} {data : Data} {record : Record} {field : Field} {part : List Step}

/-- Whatever the schema compiles reports the faults in all data that are smaller than these. -/
def ReportsBelow (schema : Schema) (data : Data) : Prop :=
  ∀ smaller, sizeOf smaller < sizeOf data → ∀ name record plan,
    schema.record? name = some record → (Compiler.ofSchema schema).compile name = .ok plan →
      List.Forall₂ Fault.Reported (record.faults schema smaller) (Plan.report plan smaller).messages

theorem rule_reports (below : ReportsBelow schema data) {rule : Rule}
    (compiled : (Compiler.ofSchema schema).directRule (Compiler.ofSchema schema).compile record
      field rule = .ok part) :
    Reports data (rule.faults schema data field) part := by
  cases ruleSteps_of_directRule compiled with
  | check row => exact check_reports row schema
  | nested row found descended =>
      have descends := row.eq_descend_iff.1 rfl
      cases row with
      | descend kind spelling known =>
          exact nested_reports kind descends found descended
            fun smaller less => below smaller less _ _ _ found descended

theorem field_reports (below : ReportsBelow schema data)
    (compiled : (Compiler.ofSchema schema).directField (Compiler.ofSchema schema).compile record
      field = .ok part) :
    Reports data (field.rules.flatMap fun rule => rule.faults schema data field) part := by
  refine joinSteps_induction (motive := fun rules steps =>
    Reports data (rules.flatMap fun rule => rule.faults schema data field) steps)
    .nil ?_ (joinSteps_of_directField compiled)
  intro rule rules part others ofRule rest
  exact .append (rule_reports below ofRule) rest

end

/-- The plan of a record reports the faults of the record, one after the other. -/
theorem plan_reports {schema : Schema} {name : String} {record : Record} {plan : Option Plan}
    (found : schema.record? name = some record)
    (compiled : (Compiler.ofSchema schema).compile name = .ok plan) (data : Data) :
    List.Forall₂ Fault.Reported (record.faults schema data) (Plan.report plan data).messages := by
  have below : ReportsBelow schema data := fun smaller _ name record plan found compiled =>
    plan_reports found compiled smaller
  obtain ⟨other, same, built⟩ := Compiler.compile_ok_iff.1 compiled
  cases same.symm.trans found
  obtain ⟨steps, joined, rfl⟩ := Compiler.directBuild_ok_iff.1 built
  rw [Plan.report_messages, Record.faults]
  refine joinSteps_induction (motive := fun fields steps => Reports data
    (fields.flatMap fun field => field.rules.flatMap fun rule => rule.faults schema data field)
    steps) .nil ?_ joined
  intro field fields part others ofField rest
  exact .append (field_reports below ofField) rest
termination_by sizeOf data

/-- A record without faults is one all of whose rules hold. -/
theorem Record.faults_eq_nil_iff {schema : Schema} {data : Data} {record : Record} :
    record.faults schema data = [] ↔
      ∀ field ∈ record.fields, ∀ rule ∈ field.rules, rule.faults schema data field = [] := by
  simp only [Record.faults, List.flatMap_eq_nil_iff]

/-- The tags of a record that has a result can all be read. -/
theorem readTag_of_compile {compiler : Compiler} {name : String} {record : Record}
    {plan : Option Plan} (found : compiler.schema.record? name = some record)
    (compiled : compiler.compile name = .ok plan) {field : Field} (member : field ∈ record.fields) :
    readTag field.name field.tag = .ok field.rules := by
  obtain ⟨other, same, built⟩ := Compiler.compile_ok_iff.1 compiled
  cases same.symm.trans found
  obtain ⟨rules, read, -⟩ := Compiler.directBuild_rules built member
  rw [Field.rules, read]

/-- A report has one message for each rule of the tags that does not hold. -/
theorem execution_means_tags {schema : Schema} {name : String} {record : Record}
    {plan : Option Plan} (found : schema.record? name = some record)
    (compiled : (Compiler.ofSchema schema).compile name = .ok plan) :
    (∀ field ∈ record.fields, readTag field.name field.tag = .ok field.rules) ∧
    ∀ data,
      ((Plan.report plan data).pass = true ↔
        ∀ field ∈ record.fields, ∀ rule ∈ field.rules, rule.faults schema data field = []) ∧
      List.Forall₂ Fault.Reported (record.faults schema data) (Plan.report plan data).messages := by
  refine ⟨fun field => readTag_of_compile found compiled, fun data => ?_⟩
  have reports := plan_reports found compiled data
  refine ⟨?_, reports⟩
  rw [Plan.report_faithful, List.isEmpty_iff, ← Record.faults_eq_nil_iff]
  constructor
  · intro silent
    rw [silent] at reports
    exact List.forall₂_nil_right_iff.1 reports
  · intro faultless
    rw [faultless] at reports
    exact List.forall₂_nil_left_iff.1 reports

/-- A purchase goes to a place. -/
def purchase : Record :=
  ⟨"Purchase", "shop", [⟨"buyer", .text, "", "req,max(8)"⟩, ⟨"place", .nested, "Place", "obj"⟩]⟩

def purchaseSchema : Schema :=
  ⟨[purchase, ⟨"Place", "shop", [⟨"town", .text, "", "req"⟩]⟩]⟩

def placePlan : Plan :=
  ⟨"Place", "shop", [.check ⟨"town", .text, ⟨"req", none⟩⟩ .notEmpty]⟩

def purchasePlan : Plan :=
  ⟨"Purchase", "shop",
    [.check ⟨"buyer", .text, ⟨"req", none⟩⟩ .notEmpty,
      .check ⟨"buyer", .text, ⟨"max", some "8"⟩⟩ (.shorterThan 8),
      .nested ⟨"place", .nested, ⟨"obj", none⟩⟩ "Place" "shop" placePlan.steps]⟩

theorem compile_place :
    (Compiler.ofSchema purchaseSchema).compile "Place" = .ok (some placePlan) :=
  Compiler.compile_ok_iff.2 ⟨_, rfl, rfl⟩

theorem compile_purchase :
    (Compiler.ofSchema purchaseSchema).compile "Purchase" = .ok (some purchasePlan) :=
  Compiler.compile_of_nested (show _ = some purchase from rfl) compile_place rfl

theorem compileRecord_purchase :
    (Compiler.ofSchema purchaseSchema).compileRecord purchase = .ok (some purchasePlan) :=
  (Compiler.compile_eq_compileRecord rfl).symm.trans compile_purchase

theorem execution_means_tags_of_purchase :
    purchaseSchema.record? "Purchase" = some purchase ∧
    (Compiler.ofSchema purchaseSchema).compile "Purchase" = .ok (some purchasePlan) ∧
    ∀ data, List.Forall₂ Fault.Reported (purchase.faults purchaseSchema data)
      (purchasePlan.execute data).messages :=
  ⟨rfl, compile_purchase, fun data => ((execution_means_tags rfl compile_purchase).2 data).2⟩

end FieldRules
