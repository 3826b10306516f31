import FieldRules.Registry.FieldCheck
import FieldRules.Record.Basic
import FieldRules.Report
import FieldRules.Tag.Rule

/-!
This file holds plans. A plan is the list of checks that the tags of a record ask for, in the order
of the fields and of the rules in each tag.
-/

namespace FieldRules

/-- The site of a step is the field and the rule that asked for it. -/
structure Site where
  field : String
  kind : Kind
  rule : Rule
  deriving Repr, DecidableEq

/-- A step checks a field, runs nested steps, or leaves a record to others. -/
inductive Step where
  | check (site : Site) (test : FieldCheck)
  | nested (site : Site) (record namespaceName : String) (steps : List Step)
  | deferred (site : Site) (typeName : String)
  deriving Repr

structure Plan where
  record : String
  namespaceName : String
  steps : List Step
  deriving Repr

def Step.site : Step → Site
  | .check site _ => site
  | .nested site .. => site
  | .deferred site _ => site

mutual

/-- Two steps are equal if they have equal sites and do the same, at every depth. -/
def Step.same : Step → Step → Bool
  | .check site test, .check otherSite otherTest => site == otherSite && test == otherTest
  | .nested site record namespaceName steps, .nested otherSite otherRecord otherName otherSteps =>
      site == otherSite && record == otherRecord && namespaceName == otherName &&
        Step.allSame steps otherSteps
  | .deferred site typeName, .deferred otherSite otherName =>
      site == otherSite && typeName == otherName
  | _, _ => false

def Step.allSame : List Step → List Step → Bool
  | [], [] => true
  | step :: steps, other :: others => step.same other && Step.allSame steps others
  | _, _ => false

end

def Plan.same (plan other : Plan) : Bool :=
  plan.record == other.record && plan.namespaceName == other.namespaceName &&
    Step.allSame plan.steps other.steps

/-- The plans of all records that ask for something. -/
structure PlanSet where
  plans : List Plan
  deriving Repr

namespace PlanSet

def plan? (set : PlanSet) (record : String) : Option Plan :=
  set.plans.find? fun plan => plan.record == record

/-- The namespaces stand in the order of their first plans. -/
def byNamespace (set : PlanSet) : List (String × List Plan) :=
  (firstSeen (set.plans.map Plan.namespaceName)).map fun name =>
    (name, set.plans.filter fun plan => plan.namespaceName == name)

end PlanSet

end FieldRules
