/-!
This file holds the character classes and the case folding of ASCII.
-/

namespace FieldRules.Text

def isAscii (c : Char) : Bool :=
  c.toNat < 128

def isDigit (c : Char) : Bool :=
  '0' ≤ c && c ≤ '9'

def isAsciiLower (c : Char) : Bool :=
  'a' ≤ c && c ≤ 'z'

def isAsciiUpper (c : Char) : Bool :=
  'A' ≤ c && c ≤ 'Z'

def isAsciiLetter (c : Char) : Bool :=
  isAsciiLower c || isAsciiUpper c

def isAsciiAlphanumeric (c : Char) : Bool :=
  isAsciiLetter c || isDigit c

def digitValue (c : Char) : Nat :=
  c.toNat - '0'.toNat

def hexDigit? (c : Char) : Option Nat :=
  if isDigit c then some (digitValue c)
  else if 'a' ≤ c && c ≤ 'f' then some (c.toNat - 'a'.toNat + 10)
  else if 'A' ≤ c && c ≤ 'F' then some (c.toNat - 'A'.toNat + 10)
  else none

def toAsciiLower (c : Char) : Char :=
  if isAsciiUpper c then Char.ofNat (c.toNat + 32) else c

end FieldRules.Text
