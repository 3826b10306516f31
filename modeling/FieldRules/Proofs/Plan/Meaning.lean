import FieldRules.Plan.Compiler
import FieldRules.Plan.Execution
import FieldRules.Proofs.Data.Member
import FieldRules.Proofs.Registry.RuleTable

/-!
This file says what the tags of a record ask of live data, without plans. The faults of a record are
its rules that fail on the data, in the order of the fields and of the rules in each tag.
-/

namespace FieldRules

/-- The rules of a tag, which are none if the tag is malformed. -/
def Field.rules (field : Field) : List Rule :=
  match readTag field.name field.tag with
  | .ok rules => rules
  | .error _ => []

/-- A nested record may be null. -/
def Kind.accepts : Kind → Data → Bool
  | .text, .text _ => true
  | .integer, .integer _ => true
  | .nested, .table _ => true
  | .nested, .null => true
  | _, _ => false

namespace Rule

/-- What a rule says of a text; a sibling is read from the same record. -/
def holdsOfText (rule : Rule) (data : Data) (value : String) : Bool :=
  match rule.keyword, rule.argument with
  | "req", none => !value.isEmpty
  | "email", none => Mail.isMailbox value
  | "url", none => Net.isUrl value
  | "ip", none => Net.isIpAddress value
  | "regex", some text => (Pattern.compile? text).any fun pattern => pattern.isMatch value
  | "min", some text => (Text.integer? text.toList).any fun bound => bound < (value.length : Int)
  | "max", some text => (Text.integer? text.toList).any fun bound => (value.length : Int) < bound
  | "equals", some target =>
      match data.member? target with
      | some (.text sibling) => value = sibling
      | _ => false
  | _, _ => false

/-- What a rule says of an integer. -/
def holdsOfInteger (rule : Rule) (data : Data) (value : Int) : Bool :=
  match rule.keyword, rule.argument with
  | "min", some text => (Text.integer? text.toList).any fun bound => bound < value
  | "max", some text => (Text.integer? text.toList).any fun bound => value < bound
  | "equals", some target =>
      match data.member? target with
      | some (.integer sibling) => value = sibling
      | _ => false
  | _, _ => false

/-- A rule holds of a present field that has its shape and passes the test. -/
def holds (rule : Rule) (field : Field) (data : Data) : Bool :=
  match field.kind, data.member? field.name with
  | .text, some (.text value) => rule.holdsOfText data value
  | .integer, some (.integer value) => rule.holdsOfInteger data value
  | _, _ => false

/-- The code of the message that a failed test of the rule gives. -/
def code (rule : Rule) : String :=
  if rule.keyword = "req" then "not_empty" else rule.keyword

end Rule

/-- A fault is a rule that fails on a field of a live record. -/
structure Fault where
  data : Data
  field : Field
  rule : Rule

/-- A fault is reported by what is missing, mistyped or failed. -/
inductive Fault.Reported (fault : Fault) : Message → Prop
  | missing (absent : fault.data.member? fault.field.name = none) :
      Reported fault (missingField fault.field.name)
  | mismatch (found : Data) (present : fault.data.member? fault.field.name = some found)
      (refused : fault.field.kind.accepts found = false) :
      Reported fault (typeMismatch fault.field.name fault.field.kind found)
  | siblingMissing (target : String) (asked : fault.rule = ⟨"equals", some target⟩)
      (absent : fault.data.member? target = none) : Reported fault (missingField target)
  | siblingMismatch (target : String) (asked : fault.rule = ⟨"equals", some target⟩)
      (found : Data) (present : fault.data.member? target = some found)
      (refused : fault.field.kind.accepts found = false) :
      Reported fault (typeMismatch target fault.field.kind found)
  | failed (found : Data) (present : fault.data.member? fault.field.name = some found)
      (accepted : fault.field.kind.accepts found = true) (text : String) :
      Reported fault ⟨fault.field.name, fault.rule.code, text⟩

mutual

/-- A descent has the faults below, or one for a value of another shape. -/
def Rule.faults (schema : Schema) (data : Data) (field : Field) (rule : Rule) : List Fault :=
  if rule.Descends then
    match (Compiler.ofSchema schema).compile field.typeName, schema.record? field.typeName with
    | .ok (some _), some nested =>
        match _present : data.member? field.name with
        | some .null => []
        | some (.table members) => nested.faults schema (.table members)
        | _ => [⟨data, field, rule⟩]
    | _, _ => []
  else if rule.holds field data then []
  else [⟨data, field, rule⟩]
termination_by (sizeOf data, 0)
decreasing_by exact .left _ _ (Data.sizeOf_member? _present)

/-- The faults of all rules of a record, in their order. -/
def Record.faults (schema : Schema) (data : Data) (record : Record) : List Fault :=
  record.fields.flatMap fun field => field.rules.flatMap fun rule => rule.faults schema data field
termination_by (sizeOf data, 1)

end

section

variable {schema : Schema} {data : Data} {field : Field} {rule : Rule}

/-- A rule that does not descend is its own fault unless it holds. -/
theorem Rule.faults_of_check (check : ¬rule.Descends) :
    rule.faults schema data field = if rule.holds field data then [] else [⟨data, field, rule⟩] := by
  rw [Rule.faults, if_neg check]

/-- A descent into a record without a plan has no fault. -/
theorem Rule.faults_of_planless (descends : rule.Descends)
    (compiled : (Compiler.ofSchema schema).compile field.typeName = .ok none) :
    rule.faults schema data field = [] := by
  rw [Rule.faults, if_pos descends, compiled]

/-- A descent into a record with a plan follows the value of its field. -/
theorem Rule.faults_of_descent {nested : Record} {plan : Plan} (descends : rule.Descends)
    (found : schema.record? field.typeName = some nested)
    (compiled : (Compiler.ofSchema schema).compile field.typeName = .ok (some plan)) :
    rule.faults schema data field =
      match data.member? field.name with
      | some .null => []
      | some (.table members) => nested.faults schema (.table members)
      | _ => [⟨data, field, rule⟩] := by
  rw [Rule.faults, if_pos descends, compiled, found]
  dsimp only
  split <;> simp_all

end

end FieldRules
