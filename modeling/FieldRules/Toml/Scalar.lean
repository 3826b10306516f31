import FieldRules.Data.Basic
import FieldRules.Text.Numeral
import FieldRules.Toml.Text

/-!
This file reads the scalars of TOML texts that are no strings: truth values, numbers and moments.
-/

namespace FieldRules.Toml

/-- Digits may have single low lines between them. -/
def areDigits (isDigit : Char → Bool) (text : List Char) : Bool :=
  (Text.pieces (· == '_') text).all fun group => !group.isEmpty && group.all isDigit

def isHexDigit (c : Char) : Bool :=
  (Text.hexDigit? c).isSome

def isOctalDigit (c : Char) : Bool :=
  '0' ≤ c && c ≤ '7'

def isBinaryDigit (c : Char) : Bool :=
  c == '0' || c == '1'

/-- A whole number in decimal digits has no leading zero. -/
def isWhole (text : List Char) : Bool :=
  areDigits Text.isDigit text && (text.length == 1 || text.head? != some '0')

def withoutSign : List Char → List Char
  | '+' :: rest => rest
  | '-' :: rest => rest
  | text => text

def isExponent (text : List Char) : Bool :=
  areDigits Text.isDigit (withoutSign text)

/-- The texts before and after the exponent mark. -/
def cutExponent (text : List Char) : List Char × Option (List Char) :=
  match Text.cutAt? 'e' (text.map fun c => if c = 'E' then 'e' else c) with
  | some (before, after) => (before, some after)
  | none => (text, none)

/-- A number with a fraction or an exponent, or one of the special values. -/
def isFloat (text : List Char) : Bool :=
  let unsigned := withoutSign text
  if unsigned = "inf".toList ∨ unsigned = "nan".toList then true
  else
    let (front, exponent) := cutExponent unsigned
    let exponentHolds := (exponent.map isExponent).getD true
    match Text.cutAt? '.' front with
    | some (whole, fraction) => isWhole whole && areDigits Text.isDigit fraction && exponentHolds
    | none => isWhole front && exponent.isSome && exponentHolds

/-- A number with a base has no sign. -/
def isBased : List Char → Bool
  | '0' :: 'x' :: digits => areDigits isHexDigit digits
  | '0' :: 'o' :: digits => areDigits isOctalDigit digits
  | '0' :: 'b' :: digits => areDigits isBinaryDigit digits
  | _ => false

def ofBase (base : Nat) (digits : List Char) : Nat :=
  digits.foldl (fun value c => (Text.hexDigit? c).elim value (value * base + ·)) 0

def integerValue (text : List Char) : Int :=
  match text with
  | '0' :: 'x' :: digits => ofBase 16 digits
  | '0' :: 'o' :: digits => ofBase 8 digits
  | '0' :: 'b' :: digits => ofBase 2 digits
  | '-' :: digits => -(ofBase 10 digits : Int)
  | digits => ofBase 10 digits

/-- The value of two digits. -/
def readPair? : List Char → Option (Nat × List Char)
  | a :: b :: rest =>
      if Text.isDigit a && Text.isDigit b then some (Text.ofDigits [a, b], rest) else none
  | _ => none

def isLeapYear (year : Nat) : Bool :=
  year % 4 == 0 && (year % 100 != 0 || year % 400 == 0)

def daysOf (year month : Nat) : Nat :=
  if month = 2 then if isLeapYear year then 29 else 28
  else if month = 4 ∨ month = 6 ∨ month = 9 ∨ month = 11 then 30
  else 31

def dropDate? (text : List Char) : Option (List Char) := do
  let (century, rest) ← readPair? text
  let (year, rest) ← readPair? rest
  let rest ← Text.dropFront? ['-'] rest
  let (month, rest) ← readPair? rest
  let rest ← Text.dropFront? ['-'] rest
  let (day, rest) ← readPair? rest
  let days := daysOf (century * 100 + year) month
  if 1 ≤ month ∧ month ≤ 12 ∧ 1 ≤ day ∧ day ≤ days then some rest else none

/-- A fraction of a second has at least one digit. -/
def dropFraction? : List Char → Option (List Char)
  | '.' :: rest =>
      if (rest.takeWhile Text.isDigit).isEmpty then none else some (rest.dropWhile Text.isDigit)
  | rest => some rest

def dropSeconds? : List Char → Option (List Char)
  | ':' :: rest => do
      let (second, rest) ← readPair? rest
      if second ≤ 60 then dropFraction? rest else none
  | rest => some rest

def dropMinutes? (text : List Char) : Option (List Char) := do
  let (hour, rest) ← readPair? text
  let rest ← Text.dropFront? [':'] rest
  let (minute, rest) ← readPair? rest
  if hour ≤ 23 ∧ minute ≤ 59 then some rest else none

def dropTime? (text : List Char) : Option (List Char) :=
  (dropMinutes? text).bind dropSeconds?

def isOffset : List Char → Bool
  | [] => true
  | ['Z'] => true
  | ['z'] => true
  | '+' :: rest => dropMinutes? rest == some []
  | '-' :: rest => dropMinutes? rest == some []
  | _ => false

/-- A date, a time of day or both, and an offset only after both. -/
def isMoment (text : List Char) : Bool :=
  match dropDate? text with
  | some [] => true
  | some (mark :: rest) =>
      (mark == 'T' || mark == 't' || mark == ' ') && ((dropTime? rest).map isOffset).getD false
  | none => dropTime? text == some []

def scalar? (text : List Char) : Option Data :=
  if text = "true".toList then some (.boolean true)
  else if text = "false".toList then some (.boolean false)
  else if isWhole (withoutSign text) || isBased text then
    some (.integer (integerValue (text.filter fun c => c != '_' && c != '+')))
  else if isFloat text then some .float
  else if isMoment text then some .moment
  else none

def isScalarChar (c : Char) : Bool :=
  isBareKeyChar c || c == '+' || c == '.' || c == ':'

/-- A date and a time may have one space between them. -/
def readScalar? (text : List Char) : Option (Data × List Char) :=
  let word := text.takeWhile isScalarChar
  let rest := text.dropWhile isScalarChar
  match rest with
  | ' ' :: digit :: _ =>
      if dropDate? word = some [] ∧ Text.isDigit digit then
        let time := (rest.drop 1).takeWhile isScalarChar
        (scalar? (word ++ ' ' :: time)).map fun data => (data, (rest.drop 1).dropWhile isScalarChar)
      else (scalar? word).map fun data => (data, rest)
  | _ => (scalar? word).map fun data => (data, rest)

end FieldRules.Toml
