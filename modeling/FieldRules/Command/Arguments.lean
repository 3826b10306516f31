import FieldRules.Text.Pieces

/-!
This file reads the words of a command line. Switches have a long name and maybe a letter, and all
other words are operands.
-/

namespace FieldRules.Command

/-- A command line may ask for a text about the program, or it may be malformed. -/
inductive Halt where
  | help
  | version
  | usage
  deriving Repr, DecidableEq

/-- A switch takes a value, asks for a text or is just there or not. -/
structure Switch where
  name : String
  letter : Option Char
  takesValue : Bool
  isRepeatable : Bool
  halt : Option Halt
  deriving Repr, DecidableEq

namespace Switch

def flag (name : String) (letter : Option Char) : Switch :=
  ⟨name, letter, false, false, none⟩

def counted (name : String) (letter : Option Char) : Switch :=
  ⟨name, letter, false, true, none⟩

def valued (name : String) (letter : Option Char) : Switch :=
  ⟨name, letter, true, false, none⟩

def halting (name : String) (letter : Char) (halt : Halt) : Switch :=
  ⟨name, some letter, false, false, some halt⟩

end Switch

inductive Argument where
  | switch (name : String) (value : Option String)
  | operand (text : String)
  deriving Repr, DecidableEq

/-- The arguments of one word, and the switch whose value has to be the next word. -/
abbrev WordReading := Except Halt (List Argument × Option Switch)

/-- A switch that asks for a text ends the reading. -/
def readLetters (switches : List Switch) : List Char → WordReading
  | [] => .ok ([], none)
  | letter :: rest =>
      match switches.find? (·.letter == some letter) with
      | none => .error .usage
      | some ⟨name, _, true, _, _⟩ =>
          match rest with
          | [] => .ok ([], switches.find? (·.name == name))
          | '=' :: value => .ok ([.switch name (some (String.ofList value))], none)
          | value => .ok ([.switch name (some (String.ofList value))], none)
      | some ⟨_, _, false, _, some halt⟩ => .error halt
      | some ⟨name, _, false, _, none⟩ =>
          match readLetters switches rest with
          | .error halt => .error halt
          | .ok (arguments, waiting) => .ok (.switch name none :: arguments, waiting)

/-- The value of a long switch may follow an equals sign. -/
def readLong (switches : List Switch) (word : List Char) : WordReading :=
  let (name, value) :=
    match Text.cutAt? '=' word with
    | some (name, value) => (name, some (String.ofList value))
    | none => (word, none)
  match switches.find? (·.name == String.ofList name), value with
  | none, _ => .error .usage
  | some switch, some value =>
      if switch.takesValue then .ok ([.switch switch.name (some value)], none) else .error .usage
  | some switch, none =>
      match switch.halt with
      | some halt => .error halt
      | none =>
          if switch.takesValue then .ok ([], some switch)
          else .ok ([.switch switch.name none], none)

def readWord (switches : List Switch) (word : String) : WordReading :=
  match word.toList with
  | '-' :: '-' :: name => readLong switches name
  | '-' :: letter :: rest => readLetters switches (letter :: rest)
  | _ => .ok ([.operand word], none)

/-- A single dash is an operand. -/
def isOperand (word : String) : Bool :=
  word.toList.head? != some '-' || word = "-"

/-- All words after two dashes are operands. -/
def readAll (switches : List Switch) : List String → Except Halt (List Argument)
  | [] => .ok []
  | word :: words =>
      if word = "--" then .ok (words.map .operand)
      else
        match readWord switches word, words with
        | .error halt, _ => .error halt
        | .ok (arguments, none), words => (readAll switches words).map (arguments ++ ·)
        | .ok (_, some _), [] => .error .usage
        | .ok (arguments, some switch), value :: words =>
            if isOperand value then
              (readAll switches words).map (arguments ++ .switch switch.name (some value) :: ·)
            else .error .usage

/-- The words up to the first operand, and that operand with the words after it. -/
def splitAtOperand (switches : List Switch) : List String → List String × List String
  | [] => ([], [])
  | word :: words =>
      if isOperand word || word = "--" then ([], word :: words)
      else
        match readWord switches word, words with
        | .ok (_, some _), value :: words =>
            let (front, rest) := splitAtOperand switches words
            (word :: value :: front, rest)
        | _, words =>
            let (front, rest) := splitAtOperand switches words
            (word :: front, rest)

/-- Only switches that are counted may be there twice. -/
def areConsistent (switches : List Switch) (arguments : List Argument) : Bool :=
  switches.all fun switch => switch.isRepeatable ||
    (arguments.filter fun
      | .switch name _ => name == switch.name
      | .operand _ => false).length ≤ 1

/-- This function reads words whose switches all are known and consistent. -/
def readArguments (switches : List Switch) (words : List String) : Except Halt (List Argument) :=
  match readAll switches words with
  | .error halt => .error halt
  | .ok arguments => if areConsistent switches arguments then .ok arguments else .error .usage

namespace Argument

def operands (arguments : List Argument) : List String :=
  arguments.filterMap fun
    | .operand text => some text
    | .switch .. => none

def value? (arguments : List Argument) (name : String) : Option String :=
  arguments.findSome? fun
    | .switch other value => if other = name then value else none
    | .operand _ => none

def isSet (arguments : List Argument) (name : String) : Bool :=
  arguments.any fun
    | .switch other _ => other == name
    | .operand _ => false

end Argument

end FieldRules.Command
