import FieldRules.Toml.Scalar
import FieldRules.Toml.Table

/-!
This file reads TOML texts. A value is a string, another scalar, a list or a table in braces, and
both of the latter may go over several lines.
-/

namespace FieldRules.Toml

mutual

def readValue? : Nat → List Char → Option (Data × List Char)
  | 0, _ => none
  | _, [] => none
  | steps + 1, c :: rest =>
      if c = '[' then (readItems? steps (skipGap rest)).map fun (items, rest) => (.list items, rest)
      else if c = '\x7b' then do
        let (assignments, rest) ← readAssignments? steps (skipGap rest)
        let members ← insertAll? assignments []
        some (.table (membersToData members), rest)
      else if c = '"' ∨ c = '\'' then
        (readString? (c :: rest)).map fun (text, rest) => (.text (String.ofList text), rest)
      else readScalar? (c :: rest)

/-- This function reads items up to the closing bracket. -/
def readItems? : Nat → List Char → Option (List Data × List Char)
  | 0, _ => none
  | steps + 1, text =>
      match text with
      | ']' :: rest => some ([], rest)
      | _ => do
          let (item, rest) ← readValue? steps text
          match skipGap rest with
          | ',' :: rest => do
              let (items, rest) ← readItems? steps (skipGap rest)
              some (item :: items, rest)
          | ']' :: rest => some ([item], rest)
          | _ => none

/-- This function reads assignments up to the closing brace. -/
def readAssignments? : Nat → List Char → Option (List Assignment × List Char)
  | 0, _ => none
  | steps + 1, text =>
      match text with
      | '\x7d' :: rest => some ([], rest)
      | _ => do
          let (assignment, rest) ← readAssignment? steps text
          match skipGap rest with
          | ',' :: rest => do
              let (assignments, rest) ← readAssignments? steps (skipGap rest)
              some (assignment :: assignments, rest)
          | '\x7d' :: rest => some ([assignment], rest)
          | _ => none

def readAssignment? : Nat → List Char → Option (Assignment × List Char)
  | 0, _ => none
  | steps + 1, text => do
      let (keys, rest) ← readPath? (text.length + 1) text
      let name ← keys.getLast?
      match skipSpaces rest with
      | '=' :: rest => do
          let (value, rest) ← readValue? steps (skipSpaces rest)
          some (⟨keys.dropLast, name, value⟩, rest)
      | _ => none

end

/-- A header names a table in brackets or an item of a list in double brackets. -/
def readHeader? (text : List Char) : Option (Section × List Char) := do
  let (isItem, inside) :=
    match text with
    | '[' :: rest => (true, rest)
    | rest => (false, rest)
  let (keys, rest) ← readPath? (inside.length + 1) inside
  let name ← keys.getLast?
  let rest ← Text.dropFront? (if isItem then [']', ']'] else [']']) (skipSpaces rest)
  some (⟨isItem, keys.dropLast, name, []⟩, ← endLine? rest)

/-- The assignments before the first header, and the sections. -/
def readLines? : Nat → List Char → Option (List Assignment × List Section)
  | 0, _ => none
  | steps + 1, text =>
      match skipGap text with
      | [] => some ([], [])
      | '[' :: rest => do
          let (part, rest) ← readHeader? rest
          let (assignments, parts) ← readLines? steps rest
          some ([], { part with assignments } :: parts)
      | rest => do
          let (assignment, rest) ← readAssignment? (rest.length + 1) rest
          let (assignments, parts) ← readLines? steps (← endLine? rest)
          some (assignment :: assignments, parts)

/-- A byte order mark before the text does not count. -/
def dropMark : List Char → List Char
  | '\ufeff' :: rest => rest
  | text => text

def tree? (text : String) : Option Data := do
  let characters := dropMark text.toList
  let (assignments, parts) ← readLines? (characters.length + 1) characters
  let members ← insertAll? assignments []
  some (.table (membersToData (← insertSections? parts members)))

end FieldRules.Toml
