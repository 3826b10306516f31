import FieldRules.Pattern.Basic

/-!
This file looks compiled patterns up in a store. A lookup compiles a text that the store does not
know, and it hands the compiled pattern over to the store.
-/

namespace FieldRules.Pattern

/-- A store keeps compiled patterns under texts, as far as it sees fit. -/
structure Store (State : Type) where
  start : State
  find? : State → String → Option Pattern
  insert : State → String → Pattern → State

namespace Store

variable {State : Type}

/-- A text that is not known is compiled, and only a pattern is stored. -/
def compile? (store : Store State) (state : State) (text : String) : Option Pattern × State :=
  match store.find? state text with
  | some pattern => (some pattern, state)
  | none =>
      match Pattern.compile? text with
      | some pattern => (some pattern, store.insert state text pattern)
      | none => (none, state)

end Store

end FieldRules.Pattern
