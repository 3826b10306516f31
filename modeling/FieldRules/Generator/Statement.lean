import FieldRules.Generator.Identifier
import FieldRules.Plan.Basic
import FieldRules.Plan.CompileError
import FieldRules.Text.Quoted

/-!
This file holds the statements of a generated validator and their text.
-/

namespace FieldRules

/-- A statement adds an outcome or the report of a nested record to the result. -/
inductive Statement where
  | push (field : String) (test : FieldCheck)
  | append (field : String)
  deriving Repr, DecidableEq

def Step.statement : Step → Statement
  | .check site test => .push site.field test
  | .nested site .. => .append site.field
  | .deferred site _ => .append site.field

namespace Statement

def field : Statement → String
  | .push field _ => field
  | .append field => field

@[simp]
theorem field_step (step : Step) : step.statement.field = step.site.field := by
  cases step <;> rfl

/-- The value of a field of the record that is validated. -/
def fieldValue (record name : String) : Except CompileError String :=
  match Identifier.spelling? name with
  | some spelling => .ok ("self." ++ spelling)
  | none => .error (.invalidIdentifier record name)

def call (function : String) (arguments : List String) : String :=
  function ++ "(" ++ ", ".intercalate arguments ++ ")"

/-- Texts and nested records are passed by reference, and integers by value. -/
def checkCall (record field value : String) : FieldCheck → Except CompileError String
  | .notEmpty => .ok (call "is_not_empty" [Text.quoted field, "&" ++ value])
  | .email => .ok (call "is_email" [Text.quoted field, "&" ++ value])
  | .url => .ok (call "is_url" [Text.quoted field, "&" ++ value])
  | .ip => .ok (call "is_ip" [Text.quoted field, "&" ++ value])
  | .pattern pattern =>
      .ok (call "satisfies_regex" [Text.quoted field, "&" ++ value, Text.quoted pattern.text])
  | .longerThan bound =>
      .ok (call "is_length_greater_than" [Text.quoted field, "&" ++ value, toString bound])
  | .shorterThan bound =>
      .ok (call "is_length_less_than" [Text.quoted field, "&" ++ value, toString bound])
  | .greaterThan bound => .ok (call "is_greater_than" [Text.quoted field, value, toString bound])
  | .lessThan bound => .ok (call "is_less_than" [Text.quoted field, value, toString bound])
  | .equalsField target =>
      (fieldValue record target).map fun targetValue =>
        call "is_equal_to" [Text.quoted field, Text.quoted target, "&" ++ value, "&" ++ targetValue]

/-- A field whose name is no identifier has no statement. -/
def text (runtimePath record : String) (statement : Statement) : Except CompileError String :=
  match fieldValue record statement.field with
  | .error error => .error error
  | .ok value =>
      match statement with
      | .append _ =>
          .ok ("result.append(" ++ runtimePath ++ "::Validate::validate(&" ++ value ++ "));")
      | .push field test =>
          (checkCall record field value test).map fun check =>
            "result.push(" ++ runtimePath ++ "::validators::" ++ check ++ ");"

end Statement

end FieldRules
