import FieldRules.Files.Path
import FieldRules.Json.Reader
import FieldRules.Record.Codec
import FieldRules.Toml.Reader
import FieldRules.Yaml.Reader

/-!
This file reads manifests, which list the records of a schema. The name of a file tells the format of
its manifest.
-/

namespace FieldRules

def DataFormat.ofPath? (path : String) : Option DataFormat := do
  let ending := String.ofList ((← Path.extension? path).toList.map Text.toAsciiLower)
  if ending = "toml" then some .toml
  else if ending = "json" then some .json
  else if ending = "yaml" ∨ ending = "yml" then some .yaml
  else none

def DataFormat.tree? : DataFormat → String → Option Data
  | .json => Json.tree?
  | .toml => Toml.tree?
  | .yaml => Yaml.tree?

/-- The records are the only member of a manifest and may be left out. -/
def Schema.ofData? (format : DataFormat) (data : Data) : Option Schema := do
  if let .table members := data.unmarked then
    guard (members.all fun member => ["records", "record"].contains member.1)
  match ← data.members? format [["records", "record"]] with
  | [records] =>
      let records ← Data.orDefault [] Data.list? records
      (records.mapM (Record.ofData? format)).map Schema.mk
  | _ => none

/-- This function reads the text of a manifest. -/
def Schema.ofManifest? (format : DataFormat) (text : String) : Option Schema :=
  (format.tree? text).bind (Schema.ofData? format)

end FieldRules
