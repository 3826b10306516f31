/-!
This file says which characters are blank, which is the Unicode property White_Space, and removes
blanks around a text.
-/

namespace FieldRules.Text

def isBlank (c : Char) : Bool :=
  let point := c.toNat
  (9 ≤ point && point ≤ 13) || point == 0x20 || point == 0x85 || point == 0xa0 ||
    point == 0x1680 || (0x2000 ≤ point && point ≤ 0x200a) || point == 0x2028 ||
    point == 0x2029 || point == 0x202f || point == 0x205f || point == 0x3000

def trimStart (text : List Char) : List Char :=
  text.dropWhile isBlank

def trimEnd : List Char → List Char
  | [] => []
  | c :: rest =>
      match trimEnd rest with
      | [] => if isBlank c then [] else [c]
      | kept => c :: kept

/-- This function removes the blanks at both ends. -/
def trim (text : List Char) : List Char :=
  trimEnd (trimStart text)

end FieldRules.Text
