import FieldRules.Text.Ascii
import FieldRules.Text.Pieces

/-!
This file reads the strings, comments and line breaks of TOML texts.
-/

namespace FieldRules.Toml

def isSpace (c : Char) : Bool :=
  c == ' ' || c == '\t'

def skipSpaces (text : List Char) : List Char :=
  text.dropWhile isSpace

/-- Strings and comments hold no controls but the tab. -/
def isContent (c : Char) : Bool :=
  c == '\t' || (' ' ≤ c && c != '\x7f')

/-- The text after one line break. -/
def dropBreak? : List Char → Option (List Char)
  | '\n' :: rest => some rest
  | '\r' :: '\n' :: rest => some rest
  | _ => none

/-- A comment goes up to the end of its line. -/
def skipComment : List Char → List Char
  | '#' :: rest => rest.dropWhile isContent
  | text => text

/-- The text after the rest of a line, which holds at most a comment. -/
def endLine? (text : List Char) : Option (List Char) :=
  match skipComment (skipSpaces text) with
  | [] => some []
  | rest => dropBreak? rest

/-- Blanks, comments and line breaks between the parts of a value. -/
def skipLines : Nat → List Char → List Char
  | 0, text => text
  | steps + 1, text =>
      match dropBreak? (skipComment (skipSpaces text)) with
      | some rest => skipLines steps rest
      | none => skipComment (skipSpaces text)

def skipGap (text : List Char) : List Char :=
  skipLines (text.length + 1) text

/-- The value of exactly the given number of hexadecimal digits. -/
def readHex? : Nat → Nat → List Char → Option (Nat × List Char)
  | 0, value, rest => some (value, rest)
  | _, _, [] => none
  | digits + 1, value, c :: rest => do
      let digit ← Text.hexDigit? c
      readHex? digits (value * 16 + digit) rest

def readCodePoint? (digits : Nat) (text : List Char) : Option (Char × List Char) := do
  let (point, rest) ← readHex? digits 0 text
  if point.isValidChar then some (Char.ofNat point, rest) else none

/-- One escaped character after its backslash. -/
def readEscape? : List Char → Option (Char × List Char)
  | 'b' :: rest => some ('\x08', rest)
  | 't' :: rest => some ('\t', rest)
  | 'n' :: rest => some ('\n', rest)
  | 'f' :: rest => some ('\x0c', rest)
  | 'r' :: rest => some ('\r', rest)
  | 'e' :: rest => some ('\x1b', rest)
  | '"' :: rest => some ('"', rest)
  | '\\' :: rest => some ('\\', rest)
  | 'x' :: rest => readCodePoint? 2 rest
  | 'u' :: rest => readCodePoint? 4 rest
  | 'U' :: rest => readCodePoint? 8 rest
  | _ => none

/-- A string in double quotes on one line, after its opening quote. -/
def readBasic? : Nat → List Char → Option (List Char × List Char)
  | 0, _ => none
  | _, [] => none
  | steps + 1, c :: rest =>
      if c = '"' then some ([], rest)
      else if c = '\\' then do
        let (escaped, rest) ← readEscape? rest
        let (text, rest) ← readBasic? steps rest
        some (escaped :: text, rest)
      else if isContent c then do
        let (text, rest) ← readBasic? steps rest
        some (c :: text, rest)
      else none

/-- A string in single quotes on one line, after its opening quote. -/
def readLiteral? : List Char → Option (List Char × List Char)
  | [] => none
  | c :: rest =>
      if c = '\'' then some ([], rest)
      else if isContent c then (readLiteral? rest).map fun (text, rest) => (c :: text, rest)
      else none

/-- The first line break after the opening quotes does not count. -/
def dropFirstBreak (text : List Char) : List Char :=
  (dropBreak? text).getD text

/-- The closing quotes may follow up to two quotes of the text. -/
def closeLines? (quote : Char) (text : List Char) : Option (List Char × List Char) :=
  let count := (text.takeWhile (· == quote)).length
  if 3 ≤ count ∧ count ≤ 5 then some (List.replicate (count - 3) quote, text.drop count)
  else if 5 < count then some ([quote, quote], text.drop 5)
  else none

/-- A backslash at the end of a line removes all blanks up to the next text. -/
def dropFolded? (text : List Char) : Option (List Char) :=
  match dropBreak? (skipSpaces text) with
  | some rest => some (rest.dropWhile fun c => isSpace c || c == '\n' || c == '\r')
  | none => none

/-- A string of several lines in double quotes, after its opening quotes. -/
def readBasicLines? : Nat → List Char → Option (List Char × List Char)
  | 0, _ => none
  | _, [] => none
  | steps + 1, c :: rest =>
      match closeLines? '"' (c :: rest) with
      | some closed => some closed
      | none =>
          if c = '\\' then
            match dropFolded? rest with
            | some rest => readBasicLines? steps rest
            | none => do
                let (escaped, rest) ← readEscape? rest
                let (text, rest) ← readBasicLines? steps rest
                some (escaped :: text, rest)
          else
            match dropBreak? (c :: rest) with
            | some rest => (readBasicLines? steps rest).map fun (text, rest) => ('\n' :: text, rest)
            | none =>
                if isContent c then
                  (readBasicLines? steps rest).map fun (text, rest) => (c :: text, rest)
                else none

/-- A string of several lines in single quotes, after its opening quotes. -/
def readLiteralLines? : Nat → List Char → Option (List Char × List Char)
  | 0, _ => none
  | _, [] => none
  | steps + 1, c :: rest =>
      match closeLines? '\'' (c :: rest) with
      | some closed => some closed
      | none =>
          match dropBreak? (c :: rest) with
          | some rest => (readLiteralLines? steps rest).map fun (text, rest) => ('\n' :: text, rest)
          | none =>
              if isContent c then
                (readLiteralLines? steps rest).map fun (text, rest) => (c :: text, rest)
              else none

/-- A string in any of its four forms. -/
def readString? (text : List Char) : Option (List Char × List Char) :=
  let steps := text.length + 1
  match text with
  | '"' :: '"' :: '"' :: rest => readBasicLines? steps (dropFirstBreak rest)
  | '\'' :: '\'' :: '\'' :: rest => readLiteralLines? steps (dropFirstBreak rest)
  | '"' :: rest => readBasic? steps rest
  | '\'' :: rest => readLiteral? rest
  | _ => none

def isBareKeyChar (c : Char) : Bool :=
  Text.isAsciiAlphanumeric c || c == '_' || c == '-'

/-- A key is a bare word or a string on one line. -/
def readKey? (text : List Char) : Option (String × List Char) :=
  match text with
  | '"' :: rest =>
      (readBasic? (rest.length + 1) rest).map fun (key, rest) => (String.ofList key, rest)
  | '\'' :: rest => (readLiteral? rest).map fun (key, rest) => (String.ofList key, rest)
  | _ =>
      let word := text.takeWhile isBareKeyChar
      if word.isEmpty then none else some (String.ofList word, text.dropWhile isBareKeyChar)

/-- The keys between dots, with spaces around them. -/
def readPath? : Nat → List Char → Option (List String × List Char)
  | 0, _ => none
  | steps + 1, text => do
      let (key, rest) ← readKey? (skipSpaces text)
      match skipSpaces rest with
      | '.' :: rest => do
          let (keys, rest) ← readPath? steps rest
          some (key :: keys, rest)
      | rest => some ([key], rest)

end FieldRules.Toml
