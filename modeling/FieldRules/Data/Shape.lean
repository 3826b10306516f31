import FieldRules.Data.Basic
import FieldRules.Text.Quoted

/-!
This file says how the fields of a live record look to a check.
-/

namespace FieldRules

/-- Booleans, lists and numbers outside the integers have no shape of their own. -/
inductive Shape where
  | text
  | integer
  | record
  | null
  | other
  deriving Repr, DecidableEq

def Shape.display : Shape → String
  | .text => "text"
  | .integer => "integer"
  | .record => "record"
  | .null => "null"
  | .other => "other"

def Data.shape : Data → Shape
  | .text _ => .text
  | .integer _ => .integer
  | .table _ => .record
  | .null => .null
  | _ => .other

/-- A description shows the value of a text or an integer only. -/
def Data.describe : Data → String
  | .text value => "Text(" ++ Text.quoted value ++ ")"
  | .integer value => "Integer(" ++ toString value ++ ")"
  | .table _ => "Record(..)"
  | .null => "Null"
  | _ => "Other"

end FieldRules
