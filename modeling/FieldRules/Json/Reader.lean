import FieldRules.Data.Basic
import FieldRules.Number.Binary64

/-!
This file reads JSON texts. A number is an integer if it has neither fraction nor exponent and fits
64 bits; a string with half of a surrogate pair and a number beyond all floating-point numbers have
the right form and no value.
-/

namespace FieldRules.Json

def isSpace (c : Char) : Bool :=
  c == ' ' || c == '\n' || c == '\t' || c == '\r'

def skip (text : List Char) : List Char :=
  text.dropWhile isSpace

/-- The value of exactly four hexadecimal digits. -/
def readUnit? : List Char → Option (Nat × List Char)
  | a :: b :: c :: d :: rest => do
      let a ← Text.hexDigit? a
      let b ← Text.hexDigit? b
      let c ← Text.hexDigit? c
      let d ← Text.hexDigit? d
      some (((a * 16 + b) * 16 + c) * 16 + d, rest)
  | _ => none

def isHighSurrogate (unit : Nat) : Bool :=
  0xd800 ≤ unit && unit < 0xdc00

def isLowSurrogate (unit : Nat) : Bool :=
  0xdc00 ≤ unit && unit < 0xe000

/-- One escaped character after its backslash; half of a pair has no character. -/
def readEscape? : List Char → Option (Option Char × List Char)
  | '"' :: rest => some (some '"', rest)
  | '\\' :: rest => some (some '\\', rest)
  | '/' :: rest => some (some '/', rest)
  | 'b' :: rest => some (some '\x08', rest)
  | 'f' :: rest => some (some '\x0c', rest)
  | 'n' :: rest => some (some '\n', rest)
  | 'r' :: rest => some (some '\r', rest)
  | 't' :: rest => some (some '\t', rest)
  | 'u' :: rest => do
      let (unit, rest) ← readUnit? rest
      if isHighSurrogate unit then
        match rest with
        | '\\' :: 'u' :: after =>
            match readUnit? after with
            | some (low, after) =>
                if isLowSurrogate low then
                  some (some (Char.ofNat (0x10000 + (unit - 0xd800) * 1024 + (low - 0xdc00))),
                    after)
                else some (none, rest)
            | none => none
        | _ => some (none, rest)
      else if isLowSurrogate unit then some (none, rest)
      else some (some (Char.ofNat unit), rest)
  | _ => none

/-- The characters up to the closing quote, with a flag for those that have no value. -/
def readString? : Nat → List Char → Option (List Char × Bool × List Char)
  | 0, _ => none
  | _, [] => none
  | steps + 1, c :: rest =>
      if c = '"' then some ([], true, rest)
      else if c = '\\' then do
        let (escaped, rest) ← readEscape? rest
        let (text, sound, rest) ← readString? steps rest
        match escaped with
        | some c => some (c :: text, sound, rest)
        | none => some (text, false, rest)
      else if c < ' ' then none
      else do
        let (text, sound, rest) ← readString? steps rest
        some (c :: text, sound, rest)

/-- Digits with at least one among them. -/
def readDigits? (text : List Char) : Option (List Char × List Char) :=
  let digits := text.takeWhile Text.isDigit
  if digits.isEmpty then none else some (digits, text.dropWhile Text.isDigit)

/-- A number has no leading zero. -/
def readWhole? : List Char → Option (List Char × List Char)
  | '0' :: rest => some (['0'], rest)
  | text => readDigits? text

def readFraction? : List Char → Option (List Char × List Char)
  | '.' :: rest => readDigits? rest
  | rest => some ([], rest)

def readExponent? : List Char → Option (Option Int × List Char)
  | c :: rest =>
      if c = 'e' ∨ c = 'E' then do
        let (negative, rest) := Number.Binary64.splitSign rest
        let (digits, rest) ← readDigits? rest
        let value : Int := Text.ofDigits digits
        some (some (if negative then -value else value), rest)
      else some (none, c :: rest)
  | [] => some (none, [])

/-- A negative zero is no integer. -/
def numberOf (negative : Bool) (whole fraction : List Char) (exponent : Option Int) : Data :=
  let digits := Text.ofDigits (whole ++ fraction)
  let value : Int := if negative then -(digits : Int) else digits
  if fraction.isEmpty && exponent.isNone && (Text.IntegerRange.eitherSign 64).contains value &&
      !(negative && digits = 0) then
    .integer value
  else
    match Number.Binary64.ofDecimal negative digits (exponent.getD 0 - fraction.length) with
    | .infinite _ => .unreadable
    | _ => .float

def readNumber? (text : List Char) : Option (Data × List Char) := do
  let (negative, text) := match text with
    | '-' :: rest => (true, rest)
    | rest => (false, rest)
  let (whole, text) ← readWhole? text
  let (fraction, text) ← readFraction? text
  let (exponent, text) ← readExponent? text
  some (numberOf negative whole fraction exponent, text)

def readWord? (word : List Char) (data : Data) (text : List Char) : Option (Data × List Char) :=
  if word.isPrefixOf text then some (data, text.drop word.length) else none

/-- Lists and tables nest at most this deep. -/
def depthLimit : Nat := 127

mutual

def readValue? : Nat → Nat → List Char → Option (Data × List Char)
  | 0, _, _ => none
  | steps + 1, depth, text =>
      match skip text with
      | [] => none
      | c :: rest =>
          if c = '"' then do
            let (text, sound, rest) ← readString? (rest.length + 1) rest
            some (if sound then .text (String.ofList text) else .unreadable, rest)
          else if c = '[' then
            if depth = 0 then none
            else
              match skip rest with
              | ']' :: rest => some (.list [], rest)
              | rest => do
                  let (items, rest) ← readItems? steps (depth - 1) rest
                  some (.list items, rest)
          else if c = '\x7b' then
            if depth = 0 then none
            else
              match skip rest with
              | '\x7d' :: rest => some (.table [], rest)
              | rest => do
                  let (members, rest) ← readMembers? steps (depth - 1) rest
                  some (.table members, rest)
          else if c = 't' then readWord? "true".toList (.boolean true) (c :: rest)
          else if c = 'f' then readWord? "false".toList (.boolean false) (c :: rest)
          else if c = 'n' then readWord? "null".toList .null (c :: rest)
          else readNumber? (c :: rest)

/-- This function reads items up to the closing bracket. -/
def readItems? : Nat → Nat → List Char → Option (List Data × List Char)
  | 0, _, _ => none
  | steps + 1, depth, text => do
      let (item, rest) ← readValue? steps depth text
      match skip rest with
      | ',' :: rest => do
          let (items, rest) ← readItems? steps depth rest
          some (item :: items, rest)
      | ']' :: rest => some ([item], rest)
      | _ => none

/-- This function reads members up to the closing brace. -/
def readMembers? : Nat → Nat → List Char → Option (List (String × Data) × List Char)
  | 0, _, _ => none
  | steps + 1, depth, text =>
      match skip text with
      | '"' :: rest => do
          let (name, sound, rest) ← readString? (rest.length + 1) rest
          if !sound then none
          match skip rest with
          | ':' :: rest => do
              let (value, rest) ← readValue? steps depth rest
              let member := (String.ofList name, value)
              match skip rest with
              | ',' :: rest => do
                  let (members, rest) ← readMembers? steps depth rest
                  some (member :: members, rest)
              | '\x7d' :: rest => some ([member], rest)
              | _ => none
          | _ => none
      | _ => none

end

/-- The tree of a text with all members as they stand. -/
def tree? (text : String) : Option Data := do
  let characters := text.toList
  let (data, rest) ← readValue? (characters.length + 1) depthLimit characters
  if (skip rest).isEmpty then some data else none

/-- The value of a text, in which the last member of a name counts. -/
def value? (text : String) : Option Data :=
  ((tree? text).filter Data.isReadable).map Data.settled

end FieldRules.Json
