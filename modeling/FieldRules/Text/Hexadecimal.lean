/-!
This file spells numbers with hexadecimal digits.
-/

namespace FieldRules.Text

def lowerHexDigit (value : Nat) : Char :=
  if value < 10 then Char.ofNat ('0'.toNat + value) else Char.ofNat ('a'.toNat + (value - 10))

/-- The shortest spelling, which is one digit for zero. -/
def lowerHex (value : Nat) : List Char :=
  if value < 16 then [lowerHexDigit value]
  else lowerHex (value / 16) ++ [lowerHexDigit (value % 16)]

end FieldRules.Text
