import FieldRules.Mail.Mailbox
import FieldRules.Net.Url
import FieldRules.Number.Binary64
import FieldRules.Pattern.Cache
import FieldRules.Report

/-!
This file holds the single checks of a value. Each one passes or gives one message, with a code of
its own, for the field on which it was asked.
-/

namespace FieldRules.Check

/-- The outcome of a test with the message for its failure. -/
def outcome (passes : Bool) (field code text : String) : Outcome :=
  if passes then none else some ⟨field, code, text⟩

/-- Blanks count as content. -/
def notEmpty (field input : String) : Outcome :=
  outcome (!input.isEmpty) field "not_empty" "input cannot be empty"

def email (field input : String) : Outcome :=
  outcome (Mail.isMailbox input) field "email" "email is not valid"

def url (field input : String) : Outcome :=
  outcome (Net.isUrl input) field "url" "web address is not valid"

def ip (field input : String) : Outcome :=
  outcome (Net.isIpAddress input) field "ip" "IP is not valid"

/-- The length counts code points, and the bound itself is too short. -/
def longerThan (field input : String) (bound : Nat) : Outcome :=
  outcome (bound < input.length) field "min" s!"string length is less than {bound}"

/-- The bound itself is too long. -/
def shorterThan (field input : String) (bound : Nat) : Outcome :=
  outcome (input.length < bound) field "max" s!"string length is greater than {bound}"

/-- The message shows the bound in the given spelling. -/
def greater (field : String) (passes : Bool) (bound : String) : Outcome :=
  outcome passes field "min" ("number is less than allowed (" ++ bound ++ ")")

def smaller (field : String) (passes : Bool) (bound : String) : Outcome :=
  outcome passes field "max" ("number is greater than allowed (" ++ bound ++ ")")

def greaterThan (field : String) (input bound : Int) : Outcome :=
  greater field (bound < input) (toString bound)

def lessThan (field : String) (input bound : Int) : Outcome :=
  smaller field (input < bound) (toString bound)

/-- The message names both fields. -/
def equalTo {Value : Type} [DecidableEq Value] (field other : String) (input sibling : Value) :
    Outcome :=
  outcome (input = sibling) field "equals"
    ("field values are not equal (" ++ field ++ ", " ++ other ++ ")")

/-- A compiled pattern is searched in the input. -/
def matchesPattern (field input : String) (pattern : Pattern) : Outcome :=
  outcome (pattern.isMatch input) field "regex" "field does not match regex"

/-- The message for a text that is no pattern. -/
def invalidPattern (field pattern : String) : Message :=
  ⟨field, "regex", "pattern \x60" ++ pattern ++ "\x60 is not a valid regex"⟩

/-- A text that is no pattern fails the check. -/
def satisfiesIn {State : Type} (store : Pattern.Store State) (state : State)
    (field input pattern : String) : Outcome × State :=
  match store.compile? state pattern with
  | (some pattern, state) => (matchesPattern field input pattern, state)
  | (none, state) => (some (invalidPattern field pattern), state)

def satisfiesFrom (cache : Pattern.Cache) (field input pattern : String) :
    Outcome × Pattern.Cache :=
  satisfiesIn Pattern.Cache.store cache field input pattern

def satisfies (field input pattern : String) : Outcome :=
  (satisfiesFrom [] field input pattern).1

/-- The quantities that can be compared with a bound. -/
inductive Quantity where
  | integer (value : Int)
  | real (value : Number.Binary64)
  | text (value : String)

/-- Texts compare by code points, and quantities of two kinds do not compare. -/
def Quantity.less : Quantity → Quantity → Bool
  | .integer first, .integer second => first < second
  | .real first, .real second => first.less second
  | .text first, .text second => first < second
  | _, _ => false

def Quantity.display : Quantity → String
  | .integer value => toString value
  | .real value => value.text
  | .text value => value

def quantityGreaterThan (field : String) (input bound : Quantity) : Outcome :=
  greater field (bound.less input) bound.display

def quantityLessThan (field : String) (input bound : Quantity) : Outcome :=
  smaller field (input.less bound) bound.display

end FieldRules.Check
