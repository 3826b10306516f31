import FieldRules.Text.Ascii
import FieldRules.Text.Pieces

/-!
This file reads the ASCII form of host labels that hold other characters. The form lists the ASCII
characters first and then, as numbers of variable length, where each other character goes in.
-/

namespace FieldRules.Net.Punycode

def digitValue? (c : Char) : Option Nat :=
  if Text.isAsciiLower c then some (c.toNat - 'a'.toNat)
  else if Text.isAsciiUpper c then some (c.toNat - 'A'.toNat)
  else if Text.isDigit c then some (Text.digitValue c + 26)
  else none

/-- A digit below the threshold ends a number. -/
def threshold (place bias : Nat) : Nat :=
  if place ≤ bias then 1 else if bias + 26 ≤ place then 26 else place - bias

/-- This function halves the range of digits while the delta is too great. -/
def adaptSteps : Nat → Nat → Nat → Nat
  | 0, delta, places => places + 36 * delta / (delta + 38)
  | steps + 1, delta, places =>
      if 455 < delta then adaptSteps steps (delta / 35) (places + 36)
      else places + 36 * delta / (delta + 38)

/-- The bias of the next number follows from the last number and the count of characters. -/
def adapt (delta count : Nat) (isFirst : Bool) : Nat :=
  let delta := if isFirst then delta / 700 else delta / 2
  adaptSteps 8 (delta + delta / count) 0

/-- All numbers stay below this bound. -/
def numberBound : Nat := 4294967296

/-- This function adds one number of variable length to the given value. -/
def readNumber? (bias : Nat) : Nat → Nat → Nat → List Char → Option (Nat × List Char)
  | _, _, _, [] => none
  | place, weight, value, c :: rest => do
      let digit ← digitValue? c
      let value := value + digit * weight
      if numberBound ≤ value then none
      let limit := threshold place bias
      if digit < limit then some (value, rest)
      else
        let weight := weight * (36 - limit)
        if numberBound ≤ weight then none else readNumber? bias (place + 36) weight value rest

def insertAt (c : Char) : Nat → List Char → List Char
  | 0, text => c :: text
  | _ + 1, [] => [c]
  | index + 1, head :: text => head :: insertAt c index text

/-- Each number says where the next character goes in. -/
def insertAll? : Nat → Nat → Nat → Nat → List Char → List Char → Option (List Char)
  | 0, _, _, _, _, _ => none
  | steps + 1, point, index, bias, output, rest =>
      if rest.isEmpty then some output
      else do
        let (value, rest) ← readNumber? bias 36 1 index rest
        let count := output.length + 1
        let bias := adapt (value - index) count (index = 0)
        let point := point + value / count
        if 0x110000 ≤ point || (0xd800 ≤ point && point < 0xe000) then none
        let index := value % count
        insertAll? steps point (index + 1) bias (insertAt (Char.ofNat point) index output) rest

/-- The last hyphen parts the ASCII characters from the numbers, unless nothing stands before it. -/
def decode? (text : List Char) : Option (List Char) :=
  match Text.cutAtLast? '-' text with
  | some (c :: basic, rest) => insertAll? (text.length + 1) 128 0 72 (c :: basic) rest
  | _ => insertAll? (text.length + 1) 128 0 72 [] text

end FieldRules.Net.Punycode
