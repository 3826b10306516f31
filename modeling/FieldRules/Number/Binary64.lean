import FieldRules.Text.Numeral

/-!
This file holds floating-point numbers with 53 binary digits: how a decimal numeral is rounded to
one, how two of them compare, and which decimal numeral is the shortest that reads back.
-/

namespace FieldRules.Number

/-- A finite number is its mantissa times a power of two. -/
inductive Binary64 where
  | notANumber
  | infinite (negative : Bool)
  | finite (negative : Bool) (mantissa : Nat) (exponent : Int)
  deriving Repr, DecidableEq

namespace Binary64

def smallestExponent : Int := -1074
def greatestExponent : Int := 971
def mantissaBound : Nat := Nat.pow 2 53

/-- The quotient to the nearest integer; a half goes to the even neighbour. -/
def roundQuotient (numerator denominator : Nat) : Nat :=
  let quotient := numerator / denominator
  let remainder := 2 * (numerator % denominator)
  if remainder < denominator then quotient
  else if denominator < remainder then quotient + 1
  else quotient + quotient % 2

/-- The quotient divided by a power of two, as a pair to divide. -/
def scaleDown (numerator denominator : Nat) (exponent : Int) : Nat × Nat :=
  if exponent < 0 then (numerator * Nat.pow 2 exponent.natAbs, denominator)
  else (numerator, denominator * Nat.pow 2 exponent.natAbs)

/-- The least exponent that leaves room for the mantissa of the quotient. -/
def exponentOf (numerator denominator : Nat) : Int :=
  let guess : Int := (Nat.log2 numerator : Int) - (Nat.log2 denominator : Int) - 53
  let fits (exponent : Int) : Bool :=
    let (numerator, denominator) := scaleDown numerator denominator exponent
    numerator < mantissaBound * denominator
  let exponent := if fits guess then guess else if fits (guess + 1) then guess + 1 else guess + 2
  max exponent smallestExponent

/-- The nearest floating-point number to a positive quotient. -/
def ofQuotient (negative : Bool) (numerator denominator : Nat) : Binary64 :=
  if numerator = 0 then .finite negative 0 smallestExponent
  else
    let exponent := exponentOf numerator denominator
    let (numerator, denominator) := scaleDown numerator denominator exponent
    let mantissa := roundQuotient numerator denominator
    let (mantissa, exponent) :=
      if mantissa = mantissaBound then (mantissa / 2, exponent + 1) else (mantissa, exponent)
    if greatestExponent < exponent then .infinite negative
    else .finite negative mantissa exponent

def digitCount (value : Nat) : Nat :=
  (Nat.toDigits 10 value).length

/-- Numbers far outside the range of exponents are not computed. -/
def ofDecimal (negative : Bool) (digits : Nat) (exponent : Int) : Binary64 :=
  let magnitude : Int := (digitCount digits : Int) + exponent
  if digits = 0 || magnitude < -400 then .finite negative 0 smallestExponent
  else if 400 < magnitude then .infinite negative
  else if exponent < 0 then ofQuotient negative digits (Nat.pow 10 exponent.natAbs)
  else ofQuotient negative (digits * Nat.pow 10 exponent.natAbs) 1

/-- A finite number is ranked by its multiple of the unit. -/
def rank : Binary64 → Int
  | .notANumber => 0
  | .infinite negative => if negative then -(Nat.pow 2 2200 : Nat) else (Nat.pow 2 2200 : Nat)
  | .finite negative mantissa exponent =>
      let size : Int := mantissa * Nat.pow 2 (exponent - smallestExponent).natAbs
      if negative then -size else size

def less (first second : Binary64) : Bool :=
  first != .notANumber && second != .notANumber && first.rank < second.rank

/-- The digits and the exponent of a written number, with its sign left out. -/
def readDecimal? (text : List Char) : Option (Nat × Int) := do
  let whole := text.takeWhile Text.isDigit
  let rest := text.dropWhile Text.isDigit
  let (fraction, rest) := match rest with
    | '.' :: rest => (rest.takeWhile Text.isDigit, rest.dropWhile Text.isDigit)
    | rest => ([], rest)
  if whole.isEmpty && fraction.isEmpty then none
  let exponent ← match rest with
    | [] => some 0
    | mark :: rest => if mark = 'e' || mark = 'E' then Text.integer? rest else none
  some (Text.ofDigits (whole ++ fraction), exponent - fraction.length)

def splitSign : List Char → Bool × List Char
  | '-' :: rest => (true, rest)
  | '+' :: rest => (false, rest)
  | rest => (false, rest)

/-- Infinity and the undefined number are written as words in any case. -/
def read? (text : List Char) : Option Binary64 :=
  let (negative, rest) := splitSign text
  let word := String.ofList (rest.map Text.toAsciiLower)
  if word = "inf" || word = "infinity" then some (.infinite negative)
  else if word = "nan" then some .notANumber
  else (readDecimal? rest).map fun (digits, exponent) => ofDecimal negative digits exponent

/-- The digits of a quotient up to the given decimal place, cut off after it. -/
def decimalFloor (numerator denominator : Nat) (place : Int) : Nat :=
  if place < 0 then numerator * Nat.pow 10 place.natAbs / denominator
  else numerator / (denominator * Nat.pow 10 place.natAbs)

/-- The number of digits before the point; it is not positive for small quotients. -/
def decimalMagnitude (numerator denominator : Nat) : Int :=
  if denominator ≤ numerator then digitCount (numerator / denominator)
  else
    let guess : Int := (digitCount numerator : Int) - (digitCount denominator : Int)
    if decimalFloor numerator denominator guess = 0 then guess else guess + 1

/-- The first numeral of growing length that reads back; of two, the nearer one. -/
def shortestFrom (number : Binary64) (numerator denominator : Nat) (magnitude : Int) :
    Nat → Nat → Nat × Int
  | 0, length => (decimalFloor numerator denominator (magnitude - length), magnitude - length)
  | steps + 1, length =>
      let place := magnitude - length
      let low := decimalFloor numerator denominator place
      let readsBack (digits : Nat) : Bool := ofDecimal false digits place == number
      let half := decimalFloor (2 * numerator) denominator place
      match readsBack low && low != 0, readsBack (low + 1) with
      | true, true => (if half % 2 = 0 then low else low + 1, place)
      | true, false => (low, place)
      | false, true => (low + 1, place)
      | false, false => shortestFrom number numerator denominator magnitude steps (length + 1)

/-- A numeral with its point written out and no zero at its end. -/
def positional (digits : Nat) (place : Int) : String :=
  let (digits, place) := if digits % 10 = 0 then (digits / 10, place + 1) else (digits, place)
  let text := Nat.toDigits 10 digits
  if 0 ≤ place then String.ofList (text ++ List.replicate place.natAbs '0')
  else
    let padded := List.replicate (place.natAbs + 1 - text.length) '0' ++ text
    let whole := padded.take (padded.length - place.natAbs)
    let fraction := padded.drop (padded.length - place.natAbs)
    String.ofList (whole ++ '.' :: fraction)

def magnitudeText (mantissa : Nat) (exponent : Int) : String :=
  if mantissa = 0 then "0"
  else
    let (numerator, denominator) :=
      if exponent < 0 then (mantissa, Nat.pow 2 exponent.natAbs)
      else (mantissa * Nat.pow 2 exponent.natAbs, 1)
    let magnitude := decimalMagnitude numerator denominator
    let (digits, place) :=
      shortestFrom (.finite false mantissa exponent) numerator denominator magnitude 17 1
    positional digits place

/-- No exponent is ever written. -/
def text : Binary64 → String
  | .notANumber => "NaN"
  | .infinite negative => if negative then "-inf" else "inf"
  | .finite negative mantissa exponent =>
      (if negative then "-" else "") ++ magnitudeText mantissa exponent

end Binary64

end FieldRules.Number
