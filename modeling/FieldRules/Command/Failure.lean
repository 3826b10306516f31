import FieldRules.Files.Store
import FieldRules.Plan.CompileError

/-!
This file holds the reasons for which a task fails and their messages.
-/

namespace FieldRules.Command

inductive Failure where
  | missingConfig (path : String)
  | invalidConfig (path : String)
  | unsupportedManifest (path : String)
  | unreadableManifest (path : String) (fault : FileFault)
  | invalidManifest (path : String)
  | compile (error : CompileError)
  | unreadableInput (path : String) (fault : FileFault)
  | invalidInput (path : String)
  | directory (path : String) (fault : FileFault)
  | write (path : String) (fault : FileFault)
  deriving Repr, DecidableEq

/-- An error with another error inside is followed by the message of that one. -/
def chainOf (error : CompileError) : String :=
  ": ".intercalate (error.message :: error.source?.toList)

def Failure.message : Failure → String
  | .missingConfig path => "config file " ++ path ++ " does not exist"
  | .invalidConfig path => "invalid configuration (file " ++ path ++ ")"
  | .unsupportedManifest path =>
      "unsupported manifest " ++ path ++ ": expected a .toml, .json, .yaml or .yml file"
  | .unreadableManifest path fault => "failed to read manifest " ++ path ++ ": " ++ fault.message
  | .invalidManifest path => "invalid manifest " ++ path
  | .compile error => chainOf error
  | .unreadableInput path fault => "failed to read input " ++ path ++ ": " ++ fault.message
  | .invalidInput path => "input " ++ path ++ " is not valid JSON"
  | .directory path fault => "failed to create " ++ path ++ ": " ++ fault.message
  | .write path fault => "failed to write " ++ path ++ ": " ++ fault.message

end FieldRules.Command
