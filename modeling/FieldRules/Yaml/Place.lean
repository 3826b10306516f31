import FieldRules.Text.Ascii

/-!
This file holds places in YAML texts, which count lines and columns, and the characters that break
lines.
-/

namespace FieldRules.Yaml

/-- A place is the text that is left, with its line and its column. -/
structure Place where
  rest : List Char
  line : Nat
  column : Nat

def isBlank (c : Char) : Bool :=
  c == ' ' || c == '\t'

def isBreak (c : Char) : Bool :=
  c == '\r' || c == '\n' || c == '\u0085' || c == '\u2028' || c == '\u2029'

/-- A text holds no controls but tabs and line breaks. -/
def isAllowed (c : Char) : Bool :=
  c == '\t' || c == '\n' || c == '\r' || (' ' ≤ c && c ≤ '~') || c == '\u0085' ||
    ('\u00a0' ≤ c && c != '\ufffe' && c != '\uffff')

/-- The character is a blank, a line break or the end of the text. -/
def isGap : Option Char → Bool
  | none => true
  | some c => isBlank c || isBreak c

namespace Place

def peek? (place : Place) : Option Char :=
  place.rest.head?

/-- The character after the next one. -/
def peekSecond? (place : Place) : Option Char :=
  place.rest.tail.head?

def startsWith (place : Place) (test : Char → Bool) : Bool :=
  place.peek?.any test

def atGap (place : Place) : Bool :=
  isGap place.peek?

/-- The place after one character that breaks no line. -/
def next (place : Place) : Place :=
  { place with rest := place.rest.tail, column := place.column + 1 }

def skip (place : Place) : Nat → Place
  | 0 => place
  | count + 1 => place.next.skip count

def nextLine (place : Place) (rest : List Char) : Place :=
  ⟨rest, place.line + 1, 0⟩

/-- One line break with the text for which it stands. -/
def readBreak? (place : Place) : Option (Char × Place) :=
  match place.rest with
  | '\r' :: '\n' :: rest => some ('\n', place.nextLine rest)
  | '\u2028' :: rest => some ('\u2028', place.nextLine rest)
  | '\u2029' :: rest => some ('\u2029', place.nextLine rest)
  | c :: rest => if isBreak c then some ('\n', place.nextLine rest) else none
  | [] => none

/-- The place after all characters of a kind; none of them breaks a line. -/
def skipWhile (place : Place) (test : Char → Bool) : Place :=
  place.skip (place.rest.takeWhile test).length

/-- Three marks at the start of a line delimit a document. -/
def startsDocument (place : Place) (mark : Char) : Bool :=
  place.column == 0 && place.rest.take 3 == [mark, mark, mark] &&
    isGap (place.rest.drop 3).head?

def atDocumentMark (place : Place) : Bool :=
  place.startsDocument '-' || place.startsDocument '.'

end Place

end FieldRules.Yaml
