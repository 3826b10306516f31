import FieldRules.Net.HostMapping
import FieldRules.Net.Punycode
import FieldRules.Unicode.BidiClass
import FieldRules.Unicode.Character
import FieldRules.Unicode.Composition
import FieldRules.Unicode.Joining

/-!
This file reads domain names with characters of all scripts. A name is mapped, composed and cut into
labels, and each label is checked for its characters, its joiners and its direction.
-/

namespace FieldRules.Net

open Unicode

/-- No host name holds these ASCII characters. -/
def isForbidden (c : Char) : Bool :=
  c ≤ ' ' || c == '\x7f' || "%#/:<>?@[\\]^|".toList.contains c

/-- The characters that take the place of one character, if it may stand in a name. -/
def mapHostChar? (c : Char) : Option (List Char) :=
  if hostPoints.contains c then some [c]
  else if ignoredHostPoints.contains c then some []
  else (hostMapping.image? c.toNat).map fun points => points.map Char.ofNat

def mapHostChars? : List Char → Option (List Char)
  | [] => some []
  | c :: rest => do
      let image ← mapHostChar? c
      let images ← mapHostChars? rest
      some (image ++ images)

/-- The mapped name in its composed spelling. -/
def normalHost? (text : List Char) : Option (List Char) :=
  (mapHostChars? text).map composed

/-! Joiners stand after a virama, or between letters that join. -/

def isVirama (c : Char) : Bool :=
  combiningClass c.toNat == 9

/-- The nearest character that joining does not look through joins towards the joiner. -/
def joinsBefore (reversed : List Char) : Bool :=
  match reversed.dropWhile joinsThrough.contains with
  | [] => false
  | c :: _ => joinsOnBothSides.contains c || joinsOnLeft.contains c

def joinsAfter (rest : List Char) : Bool :=
  match rest.dropWhile joinsThrough.contains with
  | [] => false
  | c :: _ => joinsOnBothSides.contains c || joinsOnRight.contains c

def joinersFit (reversed : List Char) : List Char → Bool
  | [] => true
  | c :: rest =>
      let afterVirama := reversed.head?.any isVirama
      let fits :=
        if c = '\u200c' then afterVirama || (joinsBefore reversed && joinsAfter rest)
        else if c = '\u200d' then afterVirama
        else true
      fits && joinersFit (c :: reversed) rest

/-! Names with letters that run from right to left obey the rule for bidirectional labels. -/

def isRightToLeft (c : Char) : Bool :=
  [BidiClass.rightToLeft, .arabicLetter, .arabicNumber].contains (.ofChar c)

/-- The marks at the end of a label do not count as its end. -/
def dropMarks (reversed : List BidiClass) : List BidiClass :=
  reversed.dropWhile (· == .nonspacingMark)

def directionFits (label : List Char) : Bool :=
  match label.map BidiClass.ofChar with
  | [] => true
  | first :: others =>
      let kinds := first :: others
      let last := (dropMarks others.reverse).head?
      let neutral : List BidiClass :=
        [.europeanSeparator, .commonSeparator, .europeanTerminator, .otherNeutral,
          .boundaryNeutral, .nonspacingMark]
      if first = .leftToRight then
        last.all [BidiClass.leftToRight, .europeanNumber].contains &&
          others.all (([.leftToRight, .europeanNumber] : List BidiClass) ++ neutral).contains
      else if first = .rightToLeft || first = .arabicLetter then
        last.all [BidiClass.rightToLeft, .arabicLetter, .europeanNumber, .arabicNumber].contains &&
          others.all (([.rightToLeft, .arabicLetter, .europeanNumber, .arabicNumber] :
            List BidiClass) ++ neutral).contains &&
          !(kinds.contains .europeanNumber && kinds.contains .arabicNumber)
      else false

/-! Labels in their ASCII form start with a prefix of four characters. -/

/-- The greatest lengths of labels to encode and to decode. -/
def encodeLimit : Nat := 1000
def decodeLimit : Nat := 2000

def isValidLabel (label : List Char) : Bool :=
  label.all Text.isAscii ||
    (label.length ≤ encodeLimit && !label.head?.any isMark && joinersFit [] label)

/-- The label as it is meant; an ASCII form must be canonical. -/
def readLabel? (label : List Char) : Option (List Char) :=
  match label with
  | 'x' :: 'n' :: '-' :: '-' :: rest =>
      if rest.getLast? == some '-' || rest.isEmpty || decodeLimit < rest.length then none
      else do
        let decoded ← Punycode.decode? rest
        if normalHost? decoded == some decoded && isValidLabel decoded then some decoded else none
  | label => if isValidLabel label then some label else none

def readLabels? : List (List Char) → Option (List (List Char))
  | [] => some []
  | label :: labels => do
      let label ← readLabel? label
      let labels ← readLabels? labels
      some (label :: labels)

/-- The labels of a domain name, if it is one. -/
def domainLabels? (text : List Char) : Option (List (List Char)) := do
  let name ← normalHost? text
  if name.any isForbidden then none
  let labels ← readLabels? (Text.pieces (· == '.') name)
  if labels.any (·.any isRightToLeft) && !labels.all directionFits then none
  some labels

end FieldRules.Net
