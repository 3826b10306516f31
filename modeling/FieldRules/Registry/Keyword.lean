/-!
This file holds the keywords of the rules.
-/

namespace FieldRules

/-- The keyword `descend` leads into a nested record; all others check a value. -/
inductive Keyword where
  | required
  | email
  | url
  | ip
  | regex
  | min
  | max
  | equals
  | descend
  deriving Repr, DecidableEq

namespace Keyword

def all : List Keyword :=
  [.required, .email, .url, .ip, .regex, .min, .max, .equals, .descend]

/-- The canonical spelling. -/
def text : Keyword → String
  | .required => "req"
  | .email => "email"
  | .url => "url"
  | .ip => "ip"
  | .regex => "regex"
  | .min => "min"
  | .max => "max"
  | .equals => "equals"
  | .descend => "obj"

/-- A keyword has its canonical spelling, and `validate` is another one for `descend`. -/
def ofText? (name : String) : Option Keyword :=
  if name = "validate" then some .descend else all.find? fun keyword => keyword.text == name

/-- A stored keyword differs from its canonical spelling for `descend` alone. -/
def serialized : Keyword → String
  | .descend => "nested"
  | keyword => keyword.text

def takesArgument : Keyword → Bool
  | .regex | .min | .max | .equals => true
  | _ => false

end Keyword

end FieldRules
