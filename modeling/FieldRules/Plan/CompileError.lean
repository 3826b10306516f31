import FieldRules.Registry.RuleError
import FieldRules.Tag.Reader

/-!
This file holds the errors of records that give no plan or no source text.
-/

namespace FieldRules

inductive CompileError where
  | malformedTag (record : String) (error : MalformedTag)
  | rule (record : String) (error : RuleError)
  /-- The records along a loop of nestings; the first one is the last one again. -/
  | cycle (records : List String)
  | unknownRecord (name : String)
  /-- A name of a record or field that is no identifier. -/
  | invalidIdentifier (record name : String)
  deriving Repr, DecidableEq

namespace CompileError

def category : CompileError → String
  | .malformedTag .. => "tag"
  | .rule .. => "rule"
  | .cycle _ => "record"
  | .unknownRecord _ => "record"
  | .invalidIdentifier .. => "emit"

def code : CompileError → String
  | .malformedTag .. => "TAG_MALFORMED"
  | .rule _ error => error.code
  | .cycle _ => "RECORD_CYCLE"
  | .unknownRecord _ => "RECORD_UNKNOWN"
  | .invalidIdentifier .. => "EMIT_INVALID_IDENT"

/-- The record to blame; of a loop it is the first one. -/
def record? : CompileError → Option String
  | .malformedTag record _ => some record
  | .rule record _ => some record
  | .cycle records => records.head?
  | .unknownRecord name => some name
  | .invalidIdentifier record _ => some record

/-- The field to blame; a name that is the record's own is taken for the record. -/
def field? : CompileError → Option String
  | .malformedTag _ error => some error.field
  | .rule _ error => some error.field
  | .cycle _ => none
  | .unknownRecord _ => none
  | .invalidIdentifier record name => if name = record then none else some name

/-- The error inside this one, if it has one. -/
def source? : CompileError → Option String
  | .malformedTag _ error => some error.message
  | .rule _ error => some error.message
  | _ => none

def message : CompileError → String
  | .malformedTag record error => "record " ++ RuleError.named record ++ ": " ++ error.message
  | .rule record error => "record " ++ RuleError.named record ++ ": " ++ error.message
  | .cycle records => "cyclic record nesting: " ++ " -> ".intercalate records
  | .unknownRecord name => "record " ++ RuleError.named name ++ " is not in the schema"
  | .invalidIdentifier record name =>
      "record " ++ RuleError.named record ++ ": " ++ RuleError.named name ++
        " is not a valid Rust identifier"

end CompileError

end FieldRules
