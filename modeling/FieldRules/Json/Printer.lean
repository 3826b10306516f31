import FieldRules.Data.Basic
import FieldRules.Text.Hexadecimal

/-!
This file prints trees of data as JSON, on one line or with one member a line.
-/

namespace FieldRules.Json

/-- Only quotes, backslashes and controls are escaped. -/
def escapeChar (c : Char) : List Char :=
  if c = '"' then ['\\', '"']
  else if c = '\\' then ['\\', '\\']
  else if c = '\x08' then ['\\', 'b']
  else if c = '\x0c' then ['\\', 'f']
  else if c = '\n' then ['\\', 'n']
  else if c = '\r' then ['\\', 'r']
  else if c = '\t' then ['\\', 't']
  else if c < ' ' then
    ['\\', 'u', '0', '0', Text.lowerHexDigit (c.toNat / 16), Text.lowerHexDigit (c.toNat % 16)]
  else [c]

def quote (text : String) : String :=
  String.ofList ('"' :: text.toList.flatMap escapeChar ++ ['"'])

/-- Every line but the last ends in a comma. -/
def withCommas : List String → List String
  | [] => []
  | [line] => [line]
  | line :: lines => (line ++ ",") :: withCommas lines

mutual

def compact : Data → String
  | .null => "null"
  | .boolean value => if value then "true" else "false"
  | .integer value => toString value
  | .text value => quote value
  | .plain value => quote value
  | .list items => "[" ++ ",".intercalate (compactAll items) ++ "]"
  | .table members => "\x7b" ++ ",".intercalate (compactMembers members) ++ "\x7d"
  | .float => "null"
  | .moment => "null"
  | .unreadable => "null"
  | .marked _ inner => compact inner

def compactAll : List Data → List String
  | [] => []
  | item :: items => compact item :: compactAll items

def compactMembers : List (String × Data) → List String
  | [] => []
  | (name, value) :: members => (quote name ++ ":" ++ compact value) :: compactMembers members

end

def spaces (depth : Nat) : String :=
  String.ofList (List.replicate (2 * depth) ' ')

mutual

/-- Each level is indented by two spaces, and empty lists and tables stay on their line. -/
def pretty (depth : Nat) : Data → String
  | .list [] => "[]"
  | .table [] => "\x7b\x7d"
  | .list items =>
      "[\n" ++ "\n".intercalate (withCommas (prettyAll (depth + 1) items)) ++ "\n" ++
        spaces depth ++ "]"
  | .table members =>
      "\x7b\n" ++ "\n".intercalate (withCommas (prettyMembers (depth + 1) members)) ++ "\n" ++
        spaces depth ++ "\x7d"
  | data => compact data

def prettyAll (depth : Nat) : List Data → List String
  | [] => []
  | item :: items => (spaces depth ++ pretty depth item) :: prettyAll depth items

def prettyMembers (depth : Nat) : List (String × Data) → List String
  | [] => []
  | (name, value) :: members =>
      (spaces depth ++ quote name ++ ": " ++ pretty depth value) :: prettyMembers depth members

end

end FieldRules.Json
