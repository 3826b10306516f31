import FieldRules.Generator.Config
import FieldRules.Generator.Statement
import FieldRules.Plan.Compiler
import FieldRules.Text.Lines

/-!
This file writes plans as source text, with one file for each namespace that has a plan.
-/

namespace FieldRules

structure GeneratedFile where
  namespaceName : String
  fileName : String
  contents : String
  deriving Repr, DecidableEq

namespace Plan

/-- The steps of one field stand together under a comment. -/
def stepLines (config : GeneratorConfig) (record : String) :
    Option String → List Step → Except CompileError (List String)
  | _, [] => .ok []
  | current, step :: steps =>
      let field := step.site.field
      match step.statement.text config.runtimePath record with
      | .error error => .error error
      | .ok statement =>
          match stepLines config record (some field) steps with
          | .error error => .error error
          | .ok lines =>
              if current = some field then .ok (statement :: lines)
              else .ok ("" :: ("// Field: " ++ field) :: statement :: lines)

def ofLines (lines : List String) : String :=
  String.join (lines.map (· ++ "\n"))

/-- The body of the validator of a plan, without indentation. -/
def body (plan : Plan) (config : GeneratorConfig) : Except CompileError String :=
  match stepLines config plan.record none plan.steps with
  | .error error => .error error
  | .ok lines =>
      .ok (ofLines (["let mut result = " ++ config.runtimePath ++ "::ValidationResult::success();"] ++
        lines ++ ["", "result"]))

/-- Empty lines get no indentation. -/
def indented (line : String) : String :=
  if line.isEmpty then line else "        " ++ line

/-- The whole implementation for the record of a plan. -/
def implementation (plan : Plan) (config : GeneratorConfig) : Except CompileError String :=
  match Identifier.spelling? plan.record with
  | none => .error (.invalidIdentifier plan.record plan.record)
  | some record =>
      match plan.body config with
      | .error error => .error error
      | .ok body =>
          .ok (ofLines (["impl " ++ config.runtimePath ++ "::Validate for " ++ record ++ " \x7b",
            "    fn validate(&self) -> " ++ config.runtimePath ++ "::ValidationResult \x7b"] ++
            (Text.lines body).map indented ++ ["    \x7d", "\x7d"]))

def implementations (config : GeneratorConfig) : List Plan → Except CompileError (List String)
  | [] => .ok []
  | plan :: plans =>
      match plan.implementation config with
      | .error error => .error error
      | .ok text =>
          match implementations config plans with
          | .error error => .error error
          | .ok texts => .ok (text :: texts)

end Plan

namespace GeneratedFile

/-- The banner ends in an empty line. -/
def banner (config : GeneratorConfig) (namespaceName : String) : String :=
  if config.header then
    "// Code generated by tagval. DO NOT EDIT.\n" ++
      (if namespaceName.isEmpty then "" else "// Namespace: " ++ namespaceName ++ "\n") ++ "\n"
  else ""

/-- The text of a file with one implementation for each plan. -/
def contentsOf (config : GeneratorConfig) (namespaceName : String) (plans : List Plan) :
    Except CompileError String :=
  (Plan.implementations config plans).map fun texts =>
    banner config namespaceName ++ "\n".intercalate texts

def ofGroups (config : GeneratorConfig) :
    List (String × List Plan) → Except CompileError (List GeneratedFile)
  | [] => .ok []
  | (namespaceName, plans) :: groups =>
      match contentsOf config namespaceName plans with
      | .error error => .error error
      | .ok contents =>
          match ofGroups config groups with
          | .error error => .error error
          | .ok files => .ok (⟨namespaceName, config.fileName namespaceName, contents⟩ :: files)

end GeneratedFile

/-- This function compiles all records of a schema and writes their files. -/
def generate (schema : Schema) (config : GeneratorConfig) :
    Except CompileError (List GeneratedFile) :=
  match (Compiler.ofSchema schema).compileAll with
  | .error error => .error error
  | .ok set => GeneratedFile.ofGroups config set.byNamespace

end FieldRules
