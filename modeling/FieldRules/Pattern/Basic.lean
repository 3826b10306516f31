import FieldRules.Pattern.Meaning
import FieldRules.Pattern.Reader
import FieldRules.Pattern.Room

/-!
This file compiles the text of a pattern and matches compiled patterns.
-/

namespace FieldRules

/-- A compiled pattern keeps the text from which it was made. -/
structure Pattern where
  text : String
  regex : Pattern.Regex
  deriving Repr, DecidableEq

namespace Pattern

/-- A library compiles the texts that are patterns. -/
abbrev Library := String → Option Pattern

def compile? (text : String) : Option Pattern := do
  let expression ← Expression.ofText? text.toList
  let (regex, _) ← expression.regex? .start
  if regex.fits expression.captures then some ⟨text, regex⟩ else none

/-- A pattern matches a text if it matches some part of it. -/
def isMatch (pattern : Pattern) (input : String) : Bool :=
  pattern.regex.matchesIn input.toList

end Pattern

end FieldRules
