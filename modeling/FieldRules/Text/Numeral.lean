import FieldRules.Text.Ascii

/-!
This file reads decimal numerals and says which integers a machine type holds.
-/

namespace FieldRules.Text

def ofDigits (digits : List Char) : Nat :=
  digits.foldl (fun value digit => value * 10 + digitValue digit) 0

/-- A natural numeral has at least one digit and nothing else. -/
def natural? (text : List Char) : Option Nat :=
  if text.isEmpty || !text.all isDigit then none else some (ofDigits text)

/-- An integer numeral is a natural numeral after at most one sign. -/
def integer? : List Char → Option Int
  | '-' :: digits => (natural? digits).map fun value => -(value : Int)
  | '+' :: digits => (natural? digits).map fun value => (value : Int)
  | digits => (natural? digits).map fun value => (value : Int)

/-- A range of integers includes both of its ends. -/
structure IntegerRange where
  low : Int
  high : Int
  deriving Repr, DecidableEq

def IntegerRange.contains (range : IntegerRange) (value : Int) : Bool :=
  range.low ≤ value && value ≤ range.high

def IntegerRange.signed (bits : Nat) : IntegerRange :=
  ⟨-(Nat.pow 2 (bits - 1) : Nat), (Nat.pow 2 (bits - 1) : Nat) - 1⟩

def IntegerRange.unsigned (bits : Nat) : IntegerRange :=
  ⟨0, (Nat.pow 2 bits : Nat) - 1⟩

/-- The integers that a machine word holds with or without a sign. -/
def IntegerRange.eitherSign (bits : Nat) : IntegerRange :=
  ⟨(signed bits).low, (unsigned bits).high⟩

/-- This function reads a numeral whose value lies in the range. -/
def integerIn? (range : IntegerRange) (text : List Char) : Option Int :=
  (integer? text).filter range.contains

end FieldRules.Text
