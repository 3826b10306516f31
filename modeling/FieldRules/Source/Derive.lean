import FieldRules.Generator.Basic
import FieldRules.Source.Item
import FieldRules.Source.Reader

/-!
This file derives the validator of a struct from the tags in its source. Nested records are left to
their own validators.
-/

namespace FieldRules.Source

/-- Each way in which a validator cannot be derived. -/
inductive DeriveError where
  | noStruct
  | noNamedFields
  | item (error : TagItemError)
  | compile (error : CompileError)
  deriving Repr, DecidableEq

def DeriveError.message : DeriveError → String
  | .noStruct => "#[derive(Validate)] can only be used on structs"
  | .noNamedFields => "#[derive(Validate)] requires a struct with named fields"
  | .item error => error.message
  | .compile error => error.message

/-- A raw name is the name after its mark. -/
def plainName (name : String) : String :=
  match name.toList with
  | 'r' :: '#' :: rest => String.ofList rest
  | _ => name

/-- A field as the plan compiler sees it; a field that is skipped is not seen. -/
def FieldItem.describe (item : FieldItem) : Except DeriveError (Option Field) :=
  match tagItemsOf item.attributes with
  | .error error => .error (.item error)
  | .ok items =>
      match rejection? items with
      | some error => .error (.item error)
      | none =>
          if skips items then .ok none
          else
            .ok (some ⟨plainName item.name, item.type.kind, item.type.name,
              (joinedTag? items).getD ""⟩)

/-- The fields that are not skipped, each with the type that was written. -/
def describeFields : List FieldItem → Except DeriveError (List (Field × TypeForm))
  | [] => .ok []
  | item :: items =>
      match item.describe with
      | .error error => .error error
      | .ok field =>
          (describeFields items).map fun fields =>
            (field.toList.map fun field => (field, item.type)) ++ fields

/-- The path of the trait that validators implement. -/
def validatePath : List Token :=
  colons ++ .word "tagval_validator" :: colons ++ [.word "Validate"]

/-- Each nested record of a generic struct has to validate itself. -/
def nestedConditions (fields : List (Field × TypeForm)) (plan : Plan) : List (List Token) :=
  plan.steps.filterMap fun step =>
    match step.statement with
    | .push .. => none
    | .append name =>
        (fields.reverse.find? fun field => field.1.name == name).map fun field =>
          field.2.tokens ++ Token.single ':' :: validatePath

def successTokens : List Token :=
  colons ++ .word "tagval_validator" :: colons ++ .word "ValidationResult" :: colons ++
    [.word "success", .group .round []]

/-- The tokens of the implementation with the given body. -/
def implementation (item : Item) (conditions body : List Token) : List Token :=
  [.single '#', .group .square [.word "automatically_derived"], .word "impl"] ++
    parameterList Parameter.declaration item.generics.parameters ++ validatePath ++
    [.word "for", .word item.name] ++ parameterList Parameter.use item.generics.parameters ++
    whereClause conditions ++
    [.group .curly ([.word "fn", .word "validate", .group .round [.single '&', .word "self"]] ++
      arrow ++ colons ++ .word "tagval_validator" :: colons ++
      [.word "ValidationResult", .group .curly body])]

/-- The record that a struct declares has no namespace, and no other record is known. -/
def deriveFields (item : Item) (fields : List (Field × TypeForm)) :
    Except DeriveError (List Token) :=
  let record : Record := ⟨plainName item.name, "", fields.map Prod.fst⟩
  match (Compiler.deferring .empty).compileRecord record with
  | .error error => .error (.compile error)
  | .ok none => .ok (implementation item item.generics.conditions successTokens)
  | .ok (some plan) =>
      match plan.body .default with
      | .error error => .error (.compile error)
      | .ok body =>
          let conditions :=
            if item.generics.parameters.isEmpty then item.generics.conditions
            else addConditions item.generics.conditions (nestedConditions fields plan)
          .ok (implementation item conditions ((Token.ofText? body).getD []))

/-- The tokens of the derived validator of an item. -/
def derive (item : Item) : Except DeriveError (List Token) :=
  match item.body with
  | .noStruct => .error .noStruct
  | .otherFields => .error .noNamedFields
  | .namedFields fields =>
      match describeFields fields with
      | .error error => .error error
      | .ok fields => deriveFields item fields

end FieldRules.Source
