import FieldRules.Text.Hexadecimal
import FieldRules.Unicode.Character

/-!
This file writes a text as a string literal on one line.
-/

namespace FieldRules.Text

/-- The voice marks of halfwidth kana extend a grapheme but have a width. -/
def combines (c : Char) : Bool :=
  Unicode.isGraphemeExtend c && !Unicode.GeneralCategory.modifierLetter.contains c

/-- A character that combines or cannot be seen is written as its code point. -/
def needsCodePoint (c : Char) : Bool :=
  combines c || !Unicode.isPrintable c

def quotedChar (c : Char) : List Char :=
  if c = '\x00' then ['\\', '0']
  else if c = '\t' then ['\\', 't']
  else if c = '\r' then ['\\', 'r']
  else if c = '\n' then ['\\', 'n']
  else if c = '"' then ['\\', '"']
  else if c = '\\' then ['\\', '\\']
  else if needsCodePoint c then ['\\', 'u', '\x7b'] ++ lowerHex c.toNat ++ ['\x7d']
  else [c]

def quoted (text : String) : String :=
  String.ofList ('"' :: text.toList.flatMap quotedChar ++ ['"'])

end FieldRules.Text
