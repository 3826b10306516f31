import FieldRules.Data.Basic
import FieldRules.Number.Binary64
import FieldRules.Text.Blank
import FieldRules.Text.Pieces

/-!
This file reads settings from variables of the environment. The name of a variable is a path of
keys, and its text is a truth value, a number, a string, a list, a table or plain text.
-/

namespace FieldRules

structure Variable where
  name : String
  text : String
  deriving Repr, DecidableEq

namespace Variable

/-- A name and a text are written with an equals sign between them. -/
def ofEntry? (entry : List Char) : Option Variable :=
  (Text.cutAt? '=' entry).map fun (name, text) => ⟨String.ofList name, String.ofList text⟩

/-- The variables of an environment, each of which ends in a NUL character. -/
def ofEnvironment (text : String) : List Variable :=
  (Text.pieces (· == '\x00') text.toList).filterMap ofEntry?

/-- The names of the program's variables start so, in any case of letters. -/
def nameFront : List Char :=
  "tagval_".toList

/-- Two low lines stand for a step into a table, and so does a point. -/
def withPoints : List Char → List Char
  | '_' :: '_' :: rest => '.' :: withPoints rest
  | c :: rest => c :: withPoints rest
  | [] => []

/-- The keys of a variable in lower case, none of which may be empty. -/
def keys? (entry : Variable) : Option (List String) := do
  let name := (Text.trim entry.name.toList).map Text.toAsciiLower
  let keys := Text.pieces (· == '.') (Text.trim (withPoints (← Text.dropFront? nameFront name)))
  if keys.any List.isEmpty then none else some (keys.map String.ofList)

def isSpace (c : Char) : Bool :=
  c == ' ' || c == '\t' || c == '\n' || c == '\x0c' || c == '\r'

def skipSpaces (text : List Char) : List Char :=
  text.dropWhile isSpace

/-- The characters that end a plain text. -/
def isDelimiter (c : Char) : Bool :=
  c == ',' || c == '\x7b' || c == '\x7d' || c == '[' || c == ']'

def isKeyChar (c : Char) : Bool :=
  Text.isAsciiAlphanumeric c || c == '_' || c == '-'

/-- A plain text is a number if it spells one. -/
def plainValue (text : List Char) : Data :=
  if text.contains '.' && (Number.Binary64.read? text).isSome then .float
  else
    match Text.integerIn? (.eitherSign 64) text with
    | some value => .integer value
    | none => .text (String.ofList text)

/-- The character of exactly the given number of hexadecimal digits. -/
def readCodePoint? : Nat → Nat → List Char → Option (Char × List Char)
  | 0, point, rest => if point.isValidChar then some (Char.ofNat point, rest) else none
  | _, _, [] => none
  | digits + 1, point, c :: rest => do
      let digit ← Text.hexDigit? c
      readCodePoint? digits (point * 16 + digit) rest

/-- One escaped character after its backslash. -/
def readEscape? : List Char → Option (Char × List Char)
  | 'b' :: rest => some ('\x08', rest)
  | 't' :: rest => some ('\t', rest)
  | 'n' :: rest => some ('\n', rest)
  | 'f' :: rest => some ('\x0c', rest)
  | 'r' :: rest => some ('\r', rest)
  | '"' :: rest => some ('"', rest)
  | '\\' :: rest => some ('\\', rest)
  | 'u' :: rest => readCodePoint? 4 0 rest
  | 'U' :: rest => readCodePoint? 8 0 rest
  | _ => none

/-- The rest of a string after its opening quote. -/
def readString? : Nat → List Char → Option (List Char × List Char)
  | 0, _ => none
  | _, [] => none
  | steps + 1, c :: rest =>
      if c = '"' then some ([], rest)
      else if c = '\\' then do
        let (escaped, rest) ← readEscape? rest
        let (text, rest) ← readString? steps rest
        some (escaped :: text, rest)
      else if c = '\t' || (' ' ≤ c && c != '\x7f') then do
        let (text, rest) ← readString? steps rest
        some (c :: text, rest)
      else none

/-- A key is a word or a string. -/
def readKey? : List Char → Option (String × List Char)
  | '"' :: rest =>
      (readString? (rest.length + 1) rest).map fun (key, rest) => (String.ofList key, rest)
  | text =>
      let word := text.takeWhile isKeyChar
      if word.isEmpty then none else some (String.ofList word, text.dropWhile isKeyChar)

/-- Words, strings and single characters in quotes. -/
def readScalar? (text : List Char) : Option (Data × List Char) :=
  match Text.dropFront? "true".toList text with
  | some rest => some (.boolean true, rest)
  | none =>
      match Text.dropFront? "false".toList text with
      | some rest => some (.boolean false, rest)
      | none =>
          match text with
          | '"' :: rest =>
              (readString? (rest.length + 1) rest).map fun (value, rest) =>
                (.text (String.ofList value), rest)
          | '\'' :: c :: '\'' :: rest => some (.text (String.singleton c), rest)
          | '\'' :: _ => none
          | _ =>
              some (plainValue (Text.trim (text.takeWhile fun c => !isDelimiter c)),
                text.dropWhile fun c => !isDelimiter c)

mutual

/-- A value may have spaces around it. -/
def readValue? : Nat → List Char → Option (Data × List Char)
  | 0, _ => none
  | steps + 1, text =>
      let value : Option (Data × List Char) :=
        match skipSpaces text with
        | '[' :: rest => (readItems? steps rest).map fun (items, rest) => (Data.list items, rest)
        | '\x7b' :: rest =>
            (readMembers? steps rest).map fun (members, rest) => (Data.table members, rest)
        | rest => readScalar? rest
      value.map fun (value, rest) => (value, skipSpaces rest)

/-- This function reads items up to the closing bracket. -/
def readItems? : Nat → List Char → Option (List Data × List Char)
  | 0, _ => none
  | steps + 1, text =>
      match text with
      | ']' :: rest => some ([], rest)
      | _ => do
          let (item, rest) ← readValue? steps text
          match rest with
          | ',' :: rest => do
              let (items, rest) ← readItems? steps rest
              some (item :: items, rest)
          | ']' :: rest => some ([item], rest)
          | _ => none

/-- This function reads members up to the closing brace. -/
def readMembers? : Nat → List Char → Option (List (String × Data) × List Char)
  | 0, _ => none
  | steps + 1, text =>
      match text with
      | '\x7d' :: rest => some ([], rest)
      | _ => do
          let (key, rest) ← readKey? (skipSpaces text)
          match skipSpaces rest with
          | '=' :: rest => do
              let (value, rest) ← readValue? steps rest
              match rest with
              | ',' :: rest => do
                  let (members, rest) ← readMembers? steps rest
                  some ((key, value) :: members, rest)
              | '\x7d' :: rest => some ([(key, value)], rest)
              | _ => none
          | _ => none

end

/-- A text that is no whole value is taken as it stands. -/
def value (entry : Variable) : Data :=
  let text := entry.text.toList
  match readValue? (2 * text.length + 2) text with
  | some (data, []) => data.settled
  | _ => .text entry.text

/-- A value inside one table for each key. -/
def nest (value : Data) : List String → Data
  | [] => value
  | key :: keys => .table [(key, nest value keys)]

/-- The tree of settings that a variable stands for; other variables stand for nothing. -/
def tree (entry : Variable) : Data :=
  match entry.keys? with
  | none => .table []
  | some keys => nest entry.value keys

end Variable

end FieldRules
