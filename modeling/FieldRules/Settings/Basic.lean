import FieldRules.Files.Store
import FieldRules.Generator.Config
import FieldRules.Settings.Variable
import FieldRules.Toml.Reader

/-!
This file holds the settings of the program. They come in layers: a file may change the defaults,
and variables of the environment may change both.
-/

namespace FieldRules

namespace Data

def setMember (name : String) (value : Data) : List (String × Data) → List (String × Data)
  | [] => [(name, value)]
  | (other, old) :: rest =>
      if other = name then (name, value) :: rest else (other, old) :: setMember name value rest

mutual

/-- Tables are merged by their members, and other values are replaced. -/
def layeredOn : Data → Data → Data
  | .table members, .table others => .table (membersLayeredOn members others)
  | upper, _ => upper

def membersLayeredOn : List (String × Data) → List (String × Data) → List (String × Data)
  | [], others => others
  | (name, value) :: members, others =>
      let merged :=
        match others.lookup name with
        | none => value
        | some old => value.layeredOn old
      membersLayeredOn members (setMember name merged others)

end

end Data

structure Settings where
  logLevel : String
  generator : GeneratorConfig
  deriving Repr, DecidableEq

namespace Settings

def default : Settings :=
  ⟨"warn", .default⟩

/-- The name of the file that is read if no other is asked for. -/
def defaultPath : String :=
  "tagval.toml"

/-- The settings of the generator may also be written as a list. -/
def generatorOf? : Data → Option GeneratorConfig
  | .list items => GeneratorConfig.ofData? (.list (items.take GeneratorConfig.memberNames.length))
  | data => GeneratorConfig.ofData? data

/-- All members have a default, and others are left alone. -/
def ofData? (data : Data) : Option Settings := do
  let logLevel ← Data.orDefault default.logLevel Data.text? (data.member? "log_level")
  let generator ← Data.orDefault default.generator generatorOf? (data.member? "generator")
  some ⟨logLevel, generator⟩

/-- Later variables lie over earlier ones. -/
def ofVariables (environment : List Variable) : Data :=
  environment.foldl (fun below entry => entry.tree.layeredOn below) (.table [])

/-- The settings of a file's text, if there is one, under those of the environment. -/
def ofLayers? (text : Option String) (environment : List Variable) : Option Settings := do
  let file ←
    match text with
    | none => some (.table [])
    | some text => Toml.tree? text
  ofData? ((ofVariables environment).layeredOn file)

end Settings

end FieldRules
