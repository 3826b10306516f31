import FieldRules.Proofs.Plan.Deferral
import FieldRules.Proofs.Plan.Typing
import FieldRules.Proofs.Registry.Refusal

/-!
This file relates the two ways to compile nested records. A compiler that defers them simulates the
one that resolves them: both have the same steps in the same places, except that a deferred step
stands where the other compiler has a nested plan or no step. The deferring compiler needs no
schema, and its plans report each nested record as unresolved.
-/

namespace FieldRules

/-! ### Steps -/

/-- The message that a nested record is unresolved. -/
def Occurrence.unresolved (place : Occurrence) : Message :=
  unresolvedRecord place.field.name place.field.typeName

/-- The messages of a step without those of its inner steps. -/
def Step.ownMessages (data : Data) : Step → List Message
  | .check site test => (test.run site data).toList
  | .deferred site typeName => [unresolvedRecord site.field typeName]
  | .nested .. => []

section

variable {schema : Schema} {record : Record} {field : Field} {descent : DirectDescent}

theorem gives_of_directField {part : List Step}
    (compiled : (Compiler.deferring schema).directField descent record field = .ok part) :
    List.Forall₂ Occurrence.Gives (field.rules.map fun rule => ⟨record, field, rule⟩) part := by
  refine joinSteps_induction (motive := fun rules steps =>
    List.Forall₂ Occurrence.Gives (rules.map fun rule => ⟨record, field, rule⟩) steps)
    .nil ?_ (joinSteps_of_directField compiled)
  intro rule rules part others visited rest
  obtain ⟨step, rfl, gives⟩ := gives_of_directRule visited
  exact .cons gives rest

/-- A deferring compiler gives one step for each rule, in the order of the rules. -/
theorem gives_of_compileRecord {plan : Option Plan}
    (compiled : (Compiler.deferring schema).compileRecord record = .ok plan) :
    ∃ steps, plan = record.plan? steps ∧
      List.Forall₂ Occurrence.Gives record.occurrences steps := by
  rw [Compiler.compileRecord_eq_direct] at compiled
  obtain ⟨steps, joined, rfl⟩ := Compiler.directBuild_ok_iff.1 compiled
  refine ⟨steps, rfl, ?_⟩
  refine joinSteps_induction (motive := fun fields steps => List.Forall₂ Occurrence.Gives
    (fields.flatMap fun field => field.rules.map fun rule => ⟨record, field, rule⟩) steps)
    .nil ?_ joined
  intro field fields part others visited rest
  exact List.rel_append (gives_of_directField visited) rest

/-- If a record that resolves its nested records compiles, so do the nested records. -/
theorem compile_of_descent {plan : Option Plan}
    (compiled : (Compiler.ofSchema schema).compileRecord record = .ok plan)
    (fieldMember : field ∈ record.fields) {rule : Rule} (ruleMember : rule ∈ field.rules)
    (descends : rule.Descends) :
    ∃ nested inner, schema.record? field.typeName = some nested ∧
      (Compiler.ofSchema schema).compile field.typeName = .ok inner := by
  have built := Compiler.directBuild_of_compileRecord compiled
  obtain ⟨-, each⟩ := ruleSteps_of_directBuild built fieldMember
  obtain ⟨part, ofRule⟩ := each rule ruleMember
  cases ofRule with
  | check row => exact absurd descends row.not_descends
  | nested row found descended => exact ⟨_, _, found, descended⟩

end

/-! ### Errors -/

section

variable {schema : Schema} {record : Record} {error : CompileError}

/-- A record whose nested records are left to others has no use for the schema. -/
theorem compileRecord_deferring (schema other : Schema) (record : Record) :
    (Compiler.deferring schema).compileRecord record =
      (Compiler.deferring other).compileRecord record := by
  rw [Compiler.compileRecord_eq_direct, Compiler.compileRecord_eq_direct]
  refine Compiler.directBuild_withSchema fun target leads => ?_
  obtain ⟨resolves, -⟩ := leads
  cases resolves

/-- The codes of the errors that only nested records have. -/
def nestingCodes : List String :=
  ["RECORD_CYCLE", "RULE_UNKNOWN_RECORD"]

/-- No rule is refused for the record into which it descends. -/
theorem RuleFault.AppliesOver.code_not_mem {library : Pattern.Library} {field : Field} {rule : Rule}
    {fault : RuleFault} (applies : fault.AppliesOver library record field rule) : fault.code ∉ nestingCodes := by
  cases applies <;> simp [RuleFault.code, nestingCodes]

/-- A record that does not compile has a malformed tag or a rule that is refused. -/
theorem occurrence_of_compileRecord_error
    (stopped : (Compiler.deferring schema).compileRecord record = .error error) :
    ∃ field ∈ record.fields,
      (∃ malformed, error = .malformedTag record.name malformed ∧
        readTag field.name field.tag = .error malformed) ∨
      ∃ rule ∈ field.rules, ∃ refusal, error = .rule record.name refusal ∧
        Registry.builtin.resolve record field rule = .error refusal := by
  rw [Compiler.compileRecord_eq_direct, Compiler.directBuild] at stopped
  split at stopped
  · next ofFields =>
      cases stopped
      obtain ⟨field, member, ofField⟩ := joinSteps_error ofFields
      refine ⟨field, member, ?_⟩
      rw [Compiler.directField] at ofField
      split at ofField
      · next malformed unread =>
          cases ofField
          exact .inl ⟨malformed, rfl, unread⟩
      · next rules read =>
          obtain ⟨rule, inside, ofRule⟩ := joinSteps_error ofField
          have listed : rule ∈ field.rules := by
            rw [Field.rules, read]
            exact inside
          rw [Compiler.directRule] at ofRule
          split at ofRule
          · next refusal refused =>
              cases ofRule
              exact .inr ⟨rule, listed, refusal, rfl, refused⟩
          · cases ofRule
          · cases ofRule
  · cases stopped

theorem code_of_compileRecord
    (stopped : (Compiler.deferring schema).compileRecord record = .error error) :
    error.code ∉ nestingCodes := by
  obtain ⟨field, -, ⟨malformed, rfl, -⟩ | ⟨rule, -, refusal, rfl, refused⟩⟩ :=
    occurrence_of_compileRecord_error stopped
  · simp [CompileError.code, nestingCodes]
  · exact (builtin_resolve_error_iff.1 refused).2.1.code_not_mem

theorem code_of_compile {name : String}
    (stopped : (Compiler.deferring schema).compile name = .error error) :
    error.code ∉ nestingCodes := by
  cases found : schema.record? name with
  | none =>
      rw [Compiler.compile_eq_direct, Compiler.direct_unknown found] at stopped
      cases stopped
      simp [CompileError.code, nestingCodes]
  | some record =>
      rw [Compiler.compile_eq_compileRecord found] at stopped
      exact code_of_compileRecord stopped

theorem code_of_compileAll (stopped : (Compiler.deferring schema).compileAll = .error error) :
    error.code ∉ nestingCodes := by
  obtain ⟨_, _, _, -, -, failed⟩ := Compiler.firstError_of_compileAll stopped
  exact code_of_compile failed

end

/-! ### Messages -/

section

variable {place : Occurrence}

/-- The message is about a nested record without a plan. -/
def Message.isUnresolved (message : Message) : Bool :=
  message.code == "unresolved_record"

/-- A check has other things to report than a nested record. -/
theorem isUnresolved_of_reported {data : Data} {test : FieldCheck} {message : Message}
    (row : RuleTable place.record place.field place.rule (.check test))
    (reported : Fault.Reported ⟨data, place.field, place.rule⟩ message) :
    message.isUnresolved = false := by
  cases reported with
  | missing | siblingMissing | mismatch | siblingMismatch => rfl
  | failed =>
      have apart : ∀ code ∈ valueCodes, (code == "unresolved_record") = false := by decide
      exact apart _ row.code_mem

theorem ownMessages_of_gives {step : Step} (gives : place.Gives step) (data : Data) :
    (step.run data).messages = step.ownMessages data ∧
      (step.ownMessages data).filter Message.isUnresolved =
        if place.rule.Descends then [place.unresolved] else [] := by
  cases gives with
  | @check test row =>
      rw [Step.run, Report.ofOutcome_messages, Step.ownMessages, if_neg row.not_descends]
      refine ⟨rfl, ?_⟩
      have answers := run_answers row data
      generalize test.run (place.field.site place.rule) data = outcome at answers ⊢
      generalize place.rule.holds place.field data = passes at answers
      cases answers with
      | pass => rfl
      | fail message reported => simp [isUnresolved_of_reported row reported]
  | deferred row =>
      rw [Step.run, if_pos (row.eq_descend_iff.1 rfl)]
      exact ⟨rfl, rfl⟩

/-- The unresolved records among the messages are those of the rules that descend. -/
theorem messages_of_gives (record : Record) {places : List Occurrence} {steps : List Step}
    (given : List.Forall₂ Occurrence.Gives places steps) (data : Data) :
    (Plan.report (record.plan? steps) data).messages = steps.flatMap (Step.ownMessages data) ∧
      (steps.flatMap (Step.ownMessages data)).filter Message.isUnresolved =
        (places.filter fun place => place.rule.Descends).map Occurrence.unresolved := by
  rw [Plan.report_messages]
  induction given with
  | nil => exact ⟨rfl, rfl⟩
  | @cons place step places steps first _ inductionHypothesis =>
      obtain ⟨own, unresolved⟩ := ownMessages_of_gives first data
      obtain ⟨ownAfter, unresolvedAfter⟩ := inductionHypothesis
      rw [List.flatMap_cons, List.flatMap_cons, List.filter_append, own, ownAfter, unresolved,
        unresolvedAfter, List.filter_cons]
      refine ⟨rfl, ?_⟩
      by_cases descends : place.rule.Descends
      · simp [descends]
      · simp [descends]

end

namespace Compiler

/-- A deferring plan is the resolving one with steps for the nested plans. -/
theorem deferring_simulates_resolving (schema : Schema) :
    (∀ name plan, (ofSchema schema).compile name = .ok plan →
      ∃ record left, schema.record? name = some record ∧
        (deferring schema).compile name = .ok (record.plan? left) ∧
        plan = record.plan? (left.flatMap (Step.resolved schema)) ∧
        ∀ site typeName, .deferred site typeName ∈ left →
          ∃ nested inner, schema.record? typeName = some nested ∧
            (ofSchema schema).compile typeName = .ok inner) ∧
    (∀ name record, schema.record? name = some record →
      (deferring schema).compile name = (deferring schema).compileRecord record) ∧
    (∀ other record, (deferring schema).compileRecord record =
      (deferring other).compileRecord record) ∧
    (∀ error, ((∃ name, (deferring schema).compile name = .error error) ∨
        (∃ record, (deferring schema).compileRecord record = .error error) ∨
        (deferring schema).compileAll = .error error) →
      error.code ≠ "RECORD_CYCLE" ∧ error.code ≠ "RULE_UNKNOWN_RECORD") ∧
    ∀ record plan, (deferring schema).compileRecord record = .ok plan →
      ∃ steps, plan = record.plan? steps ∧
        List.Forall₂ Occurrence.Gives record.occurrences steps ∧
        ∀ data, (Plan.report plan data).messages = steps.flatMap (Step.ownMessages data) ∧
          (Plan.report plan data).messages.filter (fun message =>
              message.code == "unresolved_record") =
            (record.occurrences.filter fun place => place.rule.Descends).map
              Occurrence.unresolved := by
  refine ⟨fun name plan compiled => ?_, fun name record found => compile_eq_compileRecord found,
    fun other => compileRecord_deferring schema other, fun error stopped => ?_,
    fun record plan compiled => ?_⟩
  · obtain ⟨record, found, -⟩ := compile_ok_iff.1 compiled
    have alone : (ofSchema schema).compileRecord record = .ok plan :=
      (compile_eq_compileRecord found).symm.trans compiled
    obtain ⟨left, deferred, resolved, places⟩ := deferring_of_compileRecord schema alone
    refine ⟨record, left, found, ?_, resolved, fun site typeName member => ?_⟩
    · rw [← deferred]
      exact compile_eq_compileRecord found
    · obtain ⟨field, fieldMember, rule, ruleMember, descends, -, rfl⟩ :=
        (places site typeName).1 member
      exact compile_of_descent alone fieldMember ruleMember descends
  · have foreign : error.code ∉ nestingCodes := by
      rcases stopped with ⟨name, stopped⟩ | ⟨record, stopped⟩ | stopped
      · exact code_of_compile stopped
      · exact code_of_compileRecord stopped
      · exact code_of_compileAll stopped
    simpa [nestingCodes] using foreign
  · obtain ⟨steps, rfl, given⟩ := gives_of_compileRecord compiled
    refine ⟨steps, rfl, given, fun data => ?_⟩
    obtain ⟨messages, unresolved⟩ := messages_of_gives record given data
    rw [messages]
    exact ⟨rfl, unresolved⟩

end Compiler

end FieldRules
