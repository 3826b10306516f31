import FieldRules.Text.Ascii
import FieldRules.Text.Blank
import FieldRules.Text.Pieces
import FieldRules.Unicode.Character

/-!
This file finds the ends of literals in Rust source and reads the values of string literals. Each
`drop` function gives the text after a literal, if the text starts with one.
-/

namespace FieldRules.Source

def isNameStart (c : Char) : Bool :=
  c == '_' || Unicode.isStableIdentifierStart c

def isNamePart (c : Char) : Bool :=
  Unicode.isStableIdentifierContinue c

def dropName? : List Char → Option (List Char)
  | [] => none
  | c :: rest => if isNameStart c then some (rest.dropWhile isNamePart) else none

/-- A literal may end in a name. -/
def dropSuffix (text : List Char) : List Char :=
  (dropName? text).getD text

/-! ### Escapes -/

/-- At most six digits, with low lines after the first one. -/
def readCodePoint? : Nat → Nat → List Char → Option (Nat × List Char)
  | _, _, [] => none
  | count, value, c :: rest =>
      if c = '\x7d' then if count = 0 then none else some (value, rest)
      else if c = '_' then if count = 0 then none else readCodePoint? count value rest
      else
        match Text.hexDigit? c with
        | none => none
        | some digit => if count < 6 then readCodePoint? (count + 1) (value * 16 + digit) rest else none

def simpleEscapes : List (Char × Char) :=
  [('n', '\n'), ('r', '\r'), ('t', '\t'), ('\\', '\\'), ('0', '\x00'), ('\'', '\''), ('"', '"')]

/-- One escaped character after its backslash; with two hexadecimal digits it is in ASCII. -/
def readEscape? : List Char → Option (Char × List Char)
  | 'x' :: high :: low :: rest => do
      let high ← Text.hexDigit? high
      let low ← Text.hexDigit? low
      if high < 8 then some (Char.ofNat (high * 16 + low), rest) else none
  | 'u' :: '\x7b' :: rest => do
      let (point, rest) ← readCodePoint? 0 0 rest
      if point.isValidChar then some (Char.ofNat point, rest) else none
  | c :: rest => (simpleEscapes.lookup c).map fun escaped => (escaped, rest)
  | [] => none

/-- The blanks after a backslash at the end of a line. -/
def dropFolded? : List Char → Option (List Char)
  | '\n' :: rest => some (Text.trimStart rest)
  | '\r' :: '\n' :: rest => some (Text.trimStart rest)
  | _ => none

/-! ### Strings -/

/-- The characters of a string after its opening quote, with the text after its closing quote. -/
def readCooked? : Nat → List Char → Option (List Char × List Char)
  | 0, _ => none
  | steps + 1, text =>
      match text with
      | [] => none
      | '"' :: rest => some ([], rest)
      | '\r' :: '\n' :: rest => (readCooked? steps rest).map fun (value, rest) => ('\n' :: value, rest)
      | '\\' :: rest =>
          match dropFolded? rest with
          | some rest => readCooked? steps rest
          | none => do
              let (escaped, rest) ← readEscape? rest
              let (value, rest) ← readCooked? steps rest
              some (escaped :: value, rest)
      | c :: rest =>
          if c = '\r' then none
          else (readCooked? steps rest).map fun (value, rest) => (c :: value, rest)

/-- The characters of a raw string up to its fenced closing quote. -/
def readFenced? (fence : List Char) : List Char → Option (List Char × List Char)
  | [] => none
  | '"' :: rest =>
      match Text.dropFront? fence rest with
      | some rest => some ([], rest)
      | none => (readFenced? fence rest).map fun (value, rest) => ('"' :: value, rest)
  | '\r' :: '\n' :: rest =>
      (readFenced? fence rest).map fun (value, rest) => ('\r' :: '\n' :: value, rest)
  | c :: rest =>
      if c = '\r' then none
      else (readFenced? fence rest).map fun (value, rest) => (c :: value, rest)

/-- A raw string after its letter. -/
def readRaw? (text : List Char) : Option (List Char × List Char) :=
  let fence := text.takeWhile (· == '#')
  match text.dropWhile (· == '#') with
  | '"' :: rest => if fence.length < 256 then readFenced? fence rest else none
  | _ => none

/-- The value of a string literal, with the text after it. -/
def readString? (text : List Char) : Option (List Char × List Char) :=
  match text with
  | '"' :: rest => readCooked? (rest.length + 1) rest
  | 'r' :: rest => readRaw? rest
  | _ => none

/-- The escapes of bytes have two hexadecimal digits of any value and no code points. -/
def dropByteEscape? : List Char → Option (List Char)
  | 'x' :: high :: low :: rest =>
      if (Text.hexDigit? high).isSome && (Text.hexDigit? low).isSome then some rest else none
  | c :: rest => (simpleEscapes.lookup c).map fun _ => rest
  | [] => none

/-- A string of bytes, after its opening quote, holds ASCII only. -/
def dropBytes? : Nat → List Char → Option (List Char)
  | 0, _ => none
  | steps + 1, text =>
      match text with
      | [] => none
      | '"' :: rest => some rest
      | '\r' :: '\n' :: rest => dropBytes? steps rest
      | '\\' :: rest =>
          match dropFolded? rest with
          | some rest => dropBytes? steps rest
          | none => do dropBytes? steps (← dropByteEscape? rest)
      | c :: rest => if c = '\r' || !Text.isAscii c then none else dropBytes? steps rest

def dropCooked? (text : List Char) : Option (List Char) :=
  (readCooked? (text.length + 1) text).map Prod.snd

/-- Strings of all types: of characters, of bytes and with a closing zero. -/
def dropString? : List Char → Option (List Char)
  | '"' :: rest => dropCooked? rest
  | 'r' :: rest => (readRaw? rest).map Prod.snd
  | 'b' :: '"' :: rest => dropBytes? (rest.length + 1) rest
  | 'b' :: 'r' :: rest => (readRaw? rest).map Prod.snd
  | 'c' :: '"' :: rest => dropCooked? rest
  | 'c' :: 'r' :: rest => (readRaw? rest).map Prod.snd
  | _ => none

/-- A character or a byte in single quotes. -/
def dropCharacter? : List Char → Option (List Char)
  | 'b' :: '\'' :: '\\' :: rest => do Text.dropFront? ['\''] (← dropByteEscape? rest)
  | 'b' :: '\'' :: c :: rest => if Text.isAscii c then Text.dropFront? ['\''] rest else none
  | '\'' :: '\\' :: rest => do
      let (_, rest) ← readEscape? rest
      Text.dropFront? ['\''] rest
  | '\'' :: _ :: rest => Text.dropFront? ['\''] rest
  | _ => none

/-! ### Numbers -/

/-- A word does not go on after a number. -/
def endsWord (text : List Char) : Bool :=
  !text.head?.any isNamePart

def isDigitPart (c : Char) : Bool :=
  Text.isDigit c || c == '_'

/-- The digits of a number; a digit beyond the base is an error. -/
def dropDigits? (base : Nat) (isEmpty : Bool) : List Char → Option (List Char)
  | [] => if isEmpty then none else some []
  | c :: rest =>
      if Text.isDigit c then
        if Text.digitValue c < base then dropDigits? base false rest else none
      else if c = '_' then
        if isEmpty && base = 10 then none else dropDigits? base isEmpty rest
      else if base = 16 && (Text.hexDigit? c).isSome then dropDigits? base false rest
      else if isEmpty then none
      else some (c :: rest)

def dropWhole? : List Char → Option (List Char)
  | '0' :: 'x' :: rest => dropDigits? 16 true rest
  | '0' :: 'o' :: rest => dropDigits? 8 true rest
  | '0' :: 'b' :: rest => dropDigits? 2 true rest
  | text => dropDigits? 10 true text

/-- The exponent of a number, if there is one. -/
def dropExponent? : List Char → Option (List Char)
  | c :: rest =>
      if c = 'e' ∨ c = 'E' then
        let unsigned :=
          match rest with
          | '+' :: rest => rest
          | '-' :: rest => rest
          | rest => rest
        let digits := unsigned.takeWhile isDigitPart
        if digits.any Text.isDigit then some (unsigned.dropWhile isDigitPart) else none
      else none
  | [] => none

/-- A point belongs to a number if neither a name nor another point follows. -/
def dropPoint? : List Char → Option (List Char)
  | '.' :: rest =>
      if rest.head?.any fun c => c == '.' || isNameStart c then none
      else some (rest.dropWhile isDigitPart)
  | _ => none

/-- A number with a point, an exponent or both. -/
def dropFloat? (text : List Char) : Option (List Char) :=
  if !text.head?.any Text.isDigit then none
  else
    let afterWhole := text.dropWhile isDigitPart
    match dropPoint? afterWhole with
    | some afterPoint => some ((dropExponent? afterPoint).getD afterPoint)
    | none => dropExponent? afterWhole

def dropNumber? (text : List Char) : Option (List Char) :=
  match ((dropFloat? text).map dropSuffix).filter endsWord with
  | some rest => some rest
  | none => ((dropWhole? text).map dropSuffix).filter endsWord

def dropLiteral? (text : List Char) : Option (List Char) :=
  match dropString? text with
  | some rest => some (dropSuffix rest)
  | none =>
      match dropCharacter? text with
      | some rest => some (dropSuffix rest)
      | none => dropNumber? text

end FieldRules.Source
