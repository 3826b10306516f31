import FieldRules.Command.Failure
import FieldRules.Command.Invocation
import FieldRules.Generator.Basic
import FieldRules.Json.Printer
import FieldRules.Json.Reader
import FieldRules.Manifest
import FieldRules.Plan.Execution
import FieldRules.Report.Codec
import FieldRules.Settings.Basic

/-!
This file runs the commands of the program on a file store. A command leaves a store, which is a new
one only if it wrote files, and it may fail after some of its files are written.
-/

namespace FieldRules.Command

/-- The end of a command: exit code, output, failure and store. -/
structure Conclusion where
  code : Nat
  output : String
  failure : Option Failure
  store : FileStore
  deriving Repr

namespace Conclusion

def success (output : String) (store : FileStore) : Conclusion :=
  ⟨0, output, none, store⟩

def failed (failure : Failure) (output : String) (store : FileStore) : Conclusion :=
  ⟨1, output, some failure, store⟩

end Conclusion

/-- The ending of the name of a manifest tells its format, before the file is read. -/
def loadManifest (store : FileStore) (path : String) : Except Failure Schema :=
  match DataFormat.ofPath? path with
  | none => .error (.unsupportedManifest path)
  | some format =>
      match store.read path with
      | .error fault => .error (.unreadableManifest path fault)
      | .ok text =>
          match Schema.ofManifest? format text with
          | none => .error (.invalidManifest path)
          | some schema => .ok schema

/-! ### Settings -/

/-- Only a file that is asked for has to be there. -/
def loadSettings (store : FileStore) (environment : List Variable) (config : Option String) :
    Except Failure Settings :=
  let path := config.getD Settings.defaultPath
  if config.isSome && !store.isFile path then .error (.missingConfig path)
  else
    match Settings.ofLayers? (store.read path).toOption environment with
    | none => .error (.invalidConfig path)
    | some settings => .ok settings

/-! ### Checking a manifest -/

def planLine (plan : Plan) : String :=
  "  " ++ (if plan.namespaceName.isEmpty then "" else plan.namespaceName ++ "::") ++ plan.record ++
    ": " ++ toString plan.steps.length ++ " step(s)\n"

/-- A schema with tags passes if all its plans can be written. -/
def checkSchema (schema : Schema) : Except CompileError String :=
  if schema.hasTags then
    match (Compiler.ofSchema schema).compileAll with
    | .error error => .error error
    | .ok set =>
        match Plan.implementations .default set.plans with
        | .error error => .error error
        | .ok _ =>
            .ok ("validation tags found: " ++ toString set.plans.length ++ " of " ++
              toString schema.records.length ++ " record(s) have validators\n" ++
              String.join (set.plans.map planLine))
  else .ok "no validation tags found\n"

def runCheck (store : FileStore) (manifest : String) : Conclusion :=
  match loadManifest store manifest with
  | .error failure => .failed failure "" store
  | .ok schema =>
      match checkSchema schema with
      | .error error => .failed (.compile error) "" store
      | .ok output => .success output store

/-! ### Generating validators -/

/-- The files are written in their order, and the first failure ends the writing. -/
def writeFiles (outDir : String) : List GeneratedFile → String → FileStore → Conclusion
  | [], output, store => .success output store
  | file :: files, output, store =>
      let path := Path.join outDir file.fileName
      match store.write path file.contents with
      | .error fault => .failed (.write path fault) output store
      | .ok store => writeFiles outDir files (output ++ "wrote " ++ path ++ "\n") store

/-- Nothing is written before all files are generated. -/
def writeSchema (store : FileStore) (schema : Schema) (config : GeneratorConfig)
    (outDir : String) : Conclusion :=
  match generate schema config with
  | .error error => .failed (.compile error) "" store
  | .ok [] => .success "no validation tags found; nothing written\n" store
  | .ok files =>
      match store.createDirectories outDir with
      | .error fault => .failed (.directory outDir fault) "" store
      | .ok store => writeFiles outDir files "" store

def runGenerate (store : FileStore) (manifest outDir : String) (config : GeneratorConfig) :
    Conclusion :=
  match loadManifest store manifest with
  | .error failure => .failed failure "" store
  | .ok schema => writeSchema store schema config outDir

/-- The switches of a command line lie over the settings. -/
def configWith (config : GeneratorConfig) (runtimePath : Option String) (noHeader : Bool) :
    GeneratorConfig :=
  { config with
    runtimePath := runtimePath.getD config.runtimePath
    header := config.header && !noHeader }

/-! ### Validating a record -/

/-- The report is the output, and the exit code says whether it passes. -/
def reportConclusion (store : FileStore) (report : Report) : Conclusion :=
  ⟨if report.pass then 0 else 1, Json.pretty 0 report.toData ++ "\n", none, store⟩

/-- The record is compiled before the input is read. -/
def runValidate (store : FileStore) (manifest record input : String) : Conclusion :=
  match loadManifest store manifest with
  | .error failure => .failed failure "" store
  | .ok schema =>
      match (Compiler.ofSchema schema).compile record with
      | .error error => .failed (.compile error) "" store
      | .ok plan =>
          match store.read input with
          | .error fault => .failed (.unreadableInput input fault) "" store
          | .ok text =>
              match Json.value? text with
              | none => .failed (.invalidInput input) "" store
              | some data =>
                  reportConclusion store ((plan.map fun plan => plan.execute data).getD .success)

/-! ### Command lines -/

/-- The paths that a task reads, and the directory that it writes to. -/
def Task.paths : Task → List String
  | .generate manifest outDir _ _ => [manifest, outDir]
  | .check manifest => [manifest]
  | .validate manifest _ input => [manifest, input]

def Invocation.paths (invocation : Invocation) : List String :=
  invocation.config.getD Settings.defaultPath :: invocation.task.paths

def runTask (store : FileStore) (settings : Settings) : Task → Conclusion
  | .generate manifest outDir runtimePath noHeader =>
      runGenerate store manifest outDir (configWith settings.generator runtimePath noHeader)
  | .check manifest => runCheck store manifest
  | .validate manifest record input => runValidate store manifest record input

/-- The paths of the files that a task would write. -/
def Task.targets (store : FileStore) (settings : Settings) : Task → List String
  | .generate manifest outDir _ _ =>
      match loadManifest store manifest with
      | .error _ => []
      | .ok schema =>
          match FieldRules.generate schema settings.generator with
          | .error _ => []
          | .ok files => files.map fun file => Path.join outDir file.fileName
  | _ => []

/-- The paths of the files that a command line would write. -/
def Invocation.targets (store : FileStore) (environment : List Variable) (invocation : Invocation) :
    List String :=
  match loadSettings store environment invocation.config with
  | .error _ => []
  | .ok settings => invocation.task.targets store settings

def helpText : String :=
  "Tag-driven validator generation.\n\n" ++
  "Usage: tagval [-v] [--config <CONFIG>] <COMMAND>\n\n" ++
  "Commands:\n" ++
  "  generate <MANIFEST> [-o <OUT_DIR>] [--runtime-path <RUNTIME_PATH>] [--no-header]\n" ++
  "  check    <MANIFEST>\n" ++
  "  validate <MANIFEST> -r <RECORD> -i <INPUT>\n"

def versionText : String :=
  "tagval 0.1.0\n"

/-- The settings are loaded before the task starts. -/
def run (store : FileStore) (environment : List Variable) (words : List String) : Conclusion :=
  match Invocation.ofWords words with
  | .error .help => .success helpText store
  | .error .version => .success versionText store
  | .error .usage => ⟨2, "", none, store⟩
  | .ok invocation =>
      match loadSettings store environment invocation.config with
      | .error failure => .failed failure "" store
      | .ok settings => runTask store settings invocation.task

end FieldRules.Command
