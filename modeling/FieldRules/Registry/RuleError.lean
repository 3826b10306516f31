import FieldRules.Record.Basic

/-!
This file holds the errors of rules that ask for something that their field cannot give.
-/

namespace FieldRules

/-- What the text of a bound has to spell. -/
inductive BoundForm where
  | integer
  | length
  deriving Repr, DecidableEq

def BoundForm.description : BoundForm → String
  | .integer => "an integer"
  | .length => "a non-negative length"

/-- Each way in which a rule can fail to fit its field. -/
inductive RuleFault where
  | unknownKeyword (keyword : String) (kind : Kind)
  | unsupportedKind (keyword : String) (kind : Kind)
  | missingArgument (keyword : String)
  | unexpectedArgument (keyword argument : String)
  | invalidArgument (keyword argument : String) (expected : BoundForm)
  | invalidPattern (pattern : String)
  | unknownSibling (target : String)
  | siblingKind (target : String) (kind targetKind : Kind)
  | unknownRecord (record : String)
  | outOfRange (keyword argument typeName : String)
  | siblingType (target typeName targetType : String)
  deriving Repr, DecidableEq

def RuleFault.code : RuleFault → String
  | .unknownKeyword .. => "RULE_UNKNOWN"
  | .unsupportedKind .. => "RULE_UNSUPPORTED_KIND"
  | .missingArgument .. => "RULE_MISSING_ARGUMENT"
  | .unexpectedArgument .. => "RULE_UNEXPECTED_ARGUMENT"
  | .invalidArgument .. => "RULE_INVALID_ARGUMENT"
  | .invalidPattern .. => "RULE_INVALID_PATTERN"
  | .unknownSibling .. => "RULE_UNKNOWN_SIBLING"
  | .siblingKind .. => "RULE_SIBLING_KIND"
  | .unknownRecord .. => "RULE_UNKNOWN_RECORD"
  | .outOfRange .. => "RULE_OUT_OF_RANGE"
  | .siblingType .. => "RULE_SIBLING_TYPE"

/-- A rule error is a fault with the field whose rule has it. -/
structure RuleError where
  field : String
  fault : RuleFault
  deriving Repr, DecidableEq

namespace RuleError

def code (error : RuleError) : String :=
  error.fault.code

/-- A name inside a message stands between backquotes. -/
def named (name : String) : String :=
  "\x60" ++ name ++ "\x60"

def message (error : RuleError) : String :=
  let field := named error.field
  match error.fault with
  | .unknownKeyword keyword kind =>
      "unknown rule " ++ named keyword ++ " on " ++ kind.display ++ " field " ++ field
  | .unsupportedKind keyword kind =>
      "rule " ++ named keyword ++ " does not apply to " ++ kind.display ++ " field " ++ field
  | .missingArgument keyword =>
      "rule " ++ named keyword ++ " on field " ++ field ++ " requires an argument"
  | .unexpectedArgument keyword argument =>
      "rule " ++ named keyword ++ " on field " ++ field ++ " takes no argument, got " ++
        named argument
  | .invalidArgument keyword argument expected =>
      "rule " ++ named keyword ++ " on field " ++ field ++ " expects " ++ expected.description ++
        ", got " ++ named argument
  | .invalidPattern _ => "regex on field " ++ field ++ " does not compile"
  | .unknownSibling target =>
      named ("equals(" ++ target ++ ")") ++ " on field " ++ field ++
        " names no field of this record"
  | .siblingKind target kind targetKind =>
      named ("equals(" ++ target ++ ")") ++ " on " ++ kind.display ++ " field " ++ field ++
        " compares against " ++ targetKind.display ++ " field"
  | .unknownRecord record =>
      "field " ++ field ++ " descends into unknown record " ++ named record
  | .outOfRange keyword argument typeName =>
      "rule " ++ named (keyword ++ "(" ++ argument ++ ")") ++ " on field " ++ field ++
        " is out of range for " ++ named typeName
  | .siblingType target typeName targetType =>
      named ("equals(" ++ target ++ ")") ++ " on field " ++ field ++ " of type " ++
        named typeName ++ " compares against " ++ named targetType

end RuleError

end FieldRules
