import FieldRules.Pattern.Store
import FieldRules.Registry.Basic
import FieldRules.Text.Numeral

/-!
This file holds the rules that every registry starts with.
-/

namespace FieldRules

/-- The text after the last double colon. -/
def afterLastColons? : List Char → Option (List Char)
  | [] => none
  | c :: rest =>
      match afterLastColons? rest with
      | some segment => some segment
      | none =>
          match c, rest with
          | ':', ':' :: segment => some segment
          | _, _ => none

def lastSegment (path : List Char) : List Char :=
  (afterLastColons? path).getD path

/-- The integer types by name; the widest unsigned type ends with the signed one. -/
def integerRange? (typeName : String) : Option Text.IntegerRange :=
  let name := String.ofList (lastSegment typeName.toList)
  if name = "i8" then some (.signed 8)
  else if name = "i16" then some (.signed 16)
  else if name = "i32" then some (.signed 32)
  else if name = "i64" ∨ name = "isize" then some (.signed 64)
  else if name = "i128" then some (.signed 128)
  else if name = "u8" then some (.unsigned 8)
  else if name = "u16" then some (.unsigned 16)
  else if name = "u32" then some (.unsigned 32)
  else if name = "u64" ∨ name = "usize" then some (.unsigned 64)
  else if name = "u128" then some (.unsigned 127)
  else none

namespace Declaration

def invalidArgument (declaration : Declaration) (expected : BoundForm) : RuleFault :=
  .invalidArgument declaration.keyword.text declaration.argumentText expected

/-- A bound has 64 bits and is a value of the type of an integer field. -/
def integerBound (declaration : Declaration) : Except RuleFault Int :=
  match Text.integerIn? (.signed 64) declaration.argumentText.toList with
  | none => .error (declaration.invalidArgument .integer)
  | some bound =>
      if declaration.field.kind = .integer then
        match integerRange? declaration.field.typeName with
        | none => .ok bound
        | some range =>
            if range.contains bound then .ok bound
            else
              .error (.outOfRange declaration.keyword.text declaration.argumentText
                declaration.field.typeName)
      else .ok bound

def lengthBound (declaration : Declaration) : Except RuleFault Nat :=
  match declaration.integerBound with
  | .error fault => .error fault
  | .ok bound => if bound < 0 then .error (declaration.invalidArgument .length) else .ok bound.toNat

/-- Two fields compare if their kinds are equal and their named types are. -/
def sibling (declaration : Declaration) : Except RuleFault String :=
  let field := declaration.field
  let target := declaration.argumentText
  match declaration.record.field? target with
  | none => .error (.unknownSibling target)
  | some other =>
      if other.kind ≠ field.kind then .error (.siblingKind target field.kind other.kind)
      else if field.typeName ≠ "" ∧ other.typeName ≠ "" ∧ field.typeName ≠ other.typeName then
        .error (.siblingType target field.typeName other.typeName)
      else .ok target

end Declaration

namespace Resolver

def always (resolution : Resolution) : Resolver :=
  fun _ => .ok resolution

/-- The field of a declaration is blamed for each fault of its reading. -/
def blaming (read : Declaration → Except RuleFault Resolution) : Resolver := fun declaration =>
  (read declaration).mapError declaration.blame

def patternOver (library : Pattern.Library) (declaration : Declaration) :
    Except RuleFault Resolution :=
  match library declaration.argumentText with
  | none => .error (.invalidPattern declaration.argumentText)
  | some pattern => .ok (.check (.pattern pattern))

def pattern : Declaration → Except RuleFault Resolution :=
  patternOver Pattern.compile?

/-- This reading takes the pattern from a store. -/
def patternIn {State : Type} (store : Pattern.Store State) (state : State)
    (declaration : Declaration) : Except RuleFault Resolution × State :=
  match store.compile? state declaration.argumentText with
  | (none, state) => (.error (.invalidPattern declaration.argumentText), state)
  | (some pattern, state) => (.ok (.check (.pattern pattern)), state)

def length (check : Nat → FieldCheck) (declaration : Declaration) : Except RuleFault Resolution :=
  declaration.lengthBound.map fun bound => .check (check bound)

def value (check : Int → FieldCheck) (declaration : Declaration) : Except RuleFault Resolution :=
  declaration.integerBound.map fun bound => .check (check bound)

def equality (declaration : Declaration) : Except RuleFault Resolution :=
  declaration.sibling.map fun target => .check (.equalsField target)

end Resolver

/-- The twelve built-in rules over a library for patterns. -/
def Registry.builtinOver (library : Pattern.Library) : Registry where
  rows := [
    ((.required, .text), .always (.check .notEmpty)),
    ((.email, .text), .always (.check .email)),
    ((.url, .text), .always (.check .url)),
    ((.ip, .text), .always (.check .ip)),
    ((.regex, .text), .blaming (Resolver.patternOver library)),
    ((.min, .text), .blaming (Resolver.length .longerThan)),
    ((.max, .text), .blaming (Resolver.length .shorterThan)),
    ((.min, .integer), .blaming (Resolver.value .greaterThan)),
    ((.max, .integer), .blaming (Resolver.value .lessThan)),
    ((.equals, .text), .blaming Resolver.equality),
    ((.equals, .integer), .blaming Resolver.equality),
    ((.descend, .nested), .always .descend)]
  distinct := by simp

def Registry.builtin : Registry :=
  .builtinOver Pattern.compile?

end FieldRules
