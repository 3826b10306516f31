import FieldRules.Pattern.Basic

/-!
This file holds the checks to which rules resolve, with their arguments read.
-/

namespace FieldRules

/-- A check of one field; the check `equalsField` reads another field too. -/
inductive FieldCheck where
  | notEmpty
  | email
  | url
  | ip
  | pattern (pattern : Pattern)
  | longerThan (bound : Nat)
  | shorterThan (bound : Nat)
  | greaterThan (bound : Int)
  | lessThan (bound : Int)
  | equalsField (target : String)
  deriving Repr, DecidableEq

/-- A rule asks for one check or for the checks of a nested record. -/
inductive Resolution where
  | check (check : FieldCheck)
  | descend
  deriving Repr, DecidableEq

end FieldRules
