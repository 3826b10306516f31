/-!
This file holds the rules of a tag and their canonical text.
-/

namespace FieldRules

/-- A rule is a keyword with at most one argument. -/
structure Rule where
  keyword : String
  argument : Option String
  deriving Repr, DecidableEq

def Rule.text (rule : Rule) : String :=
  match rule.argument with
  | none => rule.keyword
  | some argument => rule.keyword ++ "(" ++ argument ++ ")"

/-- The canonical text of a tag has no blanks around its commas. -/
def tagText (rules : List Rule) : String :=
  ",".intercalate (rules.map Rule.text)

end FieldRules
