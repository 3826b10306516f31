import FieldRules.Record.Codec

/-!
This file holds the settings of the generator.
-/

namespace FieldRules

/-- Generated code refers to the library at the runtime path, and a header opens each file. -/
structure GeneratorConfig where
  runtimePath : String
  fileSuffix : String
  header : Bool
  deriving Repr, DecidableEq

namespace GeneratorConfig

def default : GeneratorConfig :=
  ⟨"::tagval_validator", "_tagval.rs", true⟩

/-- The empty namespace has a stem of its own. -/
def fileName (config : GeneratorConfig) (namespaceName : String) : String :=
  (if namespaceName.isEmpty then "validators" else namespaceName) ++ config.fileSuffix

def memberNames : List String :=
  ["runtime_path", "file_suffix", "header"]

/-- All members have a default, and no others are allowed. -/
def ofData? (data : Data) : Option GeneratorConfig := do
  if let .table members := data then
    guard (members.all fun member => memberNames.contains member.1)
  match ← data.members? .json (memberNames.map fun name => [name]) with
  | [runtimePath, fileSuffix, header] =>
      let runtimePath ← Data.orDefault default.runtimePath Data.text? runtimePath
      let fileSuffix ← Data.orDefault default.fileSuffix Data.text? fileSuffix
      let header ← Data.orDefault default.header Data.boolean? header
      some ⟨runtimePath, fileSuffix, header⟩
  | _ => none

def toData (config : GeneratorConfig) : Data :=
  .table [("runtime_path", .text config.runtimePath), ("file_suffix", .text config.fileSuffix),
    ("header", .boolean config.header)]

end GeneratorConfig

end FieldRules
