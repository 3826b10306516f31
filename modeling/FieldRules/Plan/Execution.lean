import FieldRules.Check
import FieldRules.Data.Shape
import FieldRules.Plan.Basic

/-!
This file runs plans on live records. Every step runs, also after a failure, and a field that is
missing or has the wrong shape gives a message as a failed check does.
-/

namespace FieldRules

def missingField (field : String) : Message :=
  ⟨field, "missing_field", "field is missing"⟩

def typeMismatch (field : String) (expected : Kind) (found : Data) : Message :=
  ⟨field, "type_mismatch",
    "expected a " ++ expected.display ++ " value, found " ++ found.shape.display⟩

def unresolvedRecord (field typeName : String) : Message :=
  ⟨field, "unresolved_record",
    "no plan is available for nested record \x60" ++ typeName ++ "\x60"⟩

namespace Data

def fieldValue (data : Data) (field : String) : Except Message Data :=
  match data.member? field with
  | some value => .ok value
  | none => .error (missingField field)

def textIn (field : String) : Data → Except Message String
  | .text value => .ok value
  | found => .error (typeMismatch field .text found)

def integerIn (field : String) : Data → Except Message Int
  | .integer value => .ok value
  | found => .error (typeMismatch field .integer found)

end Data

/-- A value that cannot be read gives its own message. -/
def checkRead {Value : Type} (value : Except Message Value) (check : Value → Outcome) : Outcome :=
  match value with
  | .error message => some message
  | .ok value => check value

/-- Both fields must be there before the shape of either matters. -/
def equalFields {Value : Type} [DecidableEq Value] (read : String → Data → Except Message Value)
    (field target : String) (value : Data) (data : Data) : Outcome :=
  checkRead (data.fieldValue target) fun targetValue =>
    checkRead (read field value) fun input =>
      checkRead (read target targetValue) fun sibling =>
        Check.equalTo field target input sibling

/-- This function checks the field of the site in the given record. -/
def FieldCheck.run (check : FieldCheck) (site : Site) (data : Data) : Outcome :=
  let field := site.field
  checkRead (data.fieldValue field) fun value =>
    match check with
    | .notEmpty => checkRead (value.textIn field) (Check.notEmpty field)
    | .email => checkRead (value.textIn field) (Check.email field)
    | .url => checkRead (value.textIn field) (Check.url field)
    | .ip => checkRead (value.textIn field) (Check.ip field)
    | .pattern compiled =>
        checkRead (value.textIn field) fun input => Check.matchesPattern field input compiled
    | .longerThan bound =>
        checkRead (value.textIn field) fun input => Check.longerThan field input bound
    | .shorterThan bound =>
        checkRead (value.textIn field) fun input => Check.shorterThan field input bound
    | .greaterThan bound =>
        checkRead (value.integerIn field) fun input => Check.greaterThan field input bound
    | .lessThan bound =>
        checkRead (value.integerIn field) fun input => Check.lessThan field input bound
    | .equalsField target =>
        if site.kind = .integer then equalFields Data.integerIn field target value data
        else equalFields Data.textIn field target value data

mutual

/-- A nested record that is null has nothing to check. -/
def Step.run (data : Data) : Step → Report
  | .check site test => .ofOutcome (test.run site data)
  | .deferred site typeName => .failure (unresolvedRecord site.field typeName)
  | .nested site _ _ steps =>
      match data.member? site.field with
      | none => .failure (missingField site.field)
      | some .null => .success
      | some (.table members) => Step.runAll (.table members) steps
      | some found => .failure (typeMismatch site.field .nested found)

def Step.runAll (data : Data) : List Step → Report
  | [] => .success
  | step :: steps => (step.run data).append (Step.runAll data steps)

end

def Plan.execute (plan : Plan) (data : Data) : Report :=
  Step.runAll data plan.steps

end FieldRules
