import FieldRules.Command.Arguments

/-!
This file says which command lines the program understands and what each one asks for.
-/

namespace FieldRules.Command

inductive Task where
  | generate (manifest outDir : String) (runtimePath : Option String) (noHeader : Bool)
  | check (manifest : String)
  | validate (manifest record input : String)
  deriving Repr, DecidableEq

structure Invocation where
  config : Option String
  task : Task
  deriving Repr, DecidableEq

/-- These switches may stand before or after the name of a command. -/
def commonSwitches : List Switch :=
  [.counted "verbose" (some 'v'), .valued "config" none, .halting "help" 'h' .help]

def mainSwitches : List Switch :=
  commonSwitches ++ [.halting "version" 'V' .version]

def generateSwitches : List Switch :=
  commonSwitches ++ [.valued "out-dir" (some 'o'), .valued "runtime-path" none,
    .flag "no-header" none]

def validateSwitches : List Switch :=
  commonSwitches ++ [.valued "record" (some 'r'), .valued "input" (some 'i')]

/-- A path has at least one character. -/
def path? (text : String) : Option String :=
  if text.isEmpty then none else some text

def onlyOperand? (arguments : List Argument) : Option String :=
  match Argument.operands arguments with
  | [text] => path? text
  | _ => none

/-- A path that is left out has a default, and none may be empty. -/
def pathOr? (default : String) (value : Option String) : Option String :=
  path? (value.getD default)

def generateTask? (arguments : List Argument) : Option Task := do
  let manifest ← onlyOperand? arguments
  let outDir ← pathOr? "." (Argument.value? arguments "out-dir")
  some (.generate manifest outDir (Argument.value? arguments "runtime-path")
    (Argument.isSet arguments "no-header"))

def checkTask? (arguments : List Argument) : Option Task :=
  (onlyOperand? arguments).map .check

def validateTask? (arguments : List Argument) : Option Task := do
  let manifest ← onlyOperand? arguments
  let record ← Argument.value? arguments "record"
  let input ← (Argument.value? arguments "input").bind path?
  some (.validate manifest record input)

/-- The name of a command decides its switches and its task. -/
def commandNamed? (name : String) : Option (List Switch × (List Argument → Option Task)) :=
  if name = "generate" then some (generateSwitches, generateTask?)
  else if name = "check" then some (commonSwitches, checkTask?)
  else if name = "validate" then some (validateSwitches, validateTask?)
  else none

def isCommand (name : String) : Bool :=
  name = "help" || (commandNamed? name).isSome

/-- The configuration file that is named after the command is preferred. -/
def configOf? (front arguments : List Argument) : Option (Option String) :=
  if (front ++ arguments).contains (.switch "config" (some "")) then none
  else some ((Argument.value? arguments "config").or (Argument.value? front "config"))

def invocationOf? (front arguments : List Argument) (task : Option Task) : Option Invocation := do
  some ⟨← configOf? front arguments, ← task⟩

/-- This function reads the words of a command line. -/
def Invocation.ofWords (words : List String) : Except Halt Invocation :=
  let (front, rest) := splitAtOperand mainSwitches words
  match readArguments mainSwitches front, rest with
  | .error halt, _ => .error halt
  | .ok _, [] => .error .usage
  | .ok frontArguments, name :: words =>
      if name = "help" then .error (if words.all isCommand then .help else .usage)
      else
        match commandNamed? name with
        | none => .error .usage
        | some (switches, taskOf?) =>
            match readArguments switches words with
            | .error halt => .error halt
            | .ok arguments =>
                match invocationOf? frontArguments arguments (taskOf? arguments) with
                | none => .error .usage
                | some invocation => .ok invocation

end FieldRules.Command
