import FieldRules.Yaml.Place

/-!
This file reads the scalars of YAML texts: plain ones, those in quotes and those in blocks.
-/

namespace FieldRules.Yaml

/-- The white space between two parts of a scalar: blanks on one line, or line breaks. -/
structure Gap where
  blanks : List Char
  /-- A gap is broken by a line break or a joined line. -/
  isBroken : Bool
  firstBreak : List Char
  otherBreaks : List Char

namespace Gap

def empty : Gap :=
  ⟨[], false, [], []⟩

/-- One line break becomes a space, and of several the first one is dropped. -/
def text (gap : Gap) : List Char :=
  if !gap.isBroken then gap.blanks
  else if gap.firstBreak = ['\n'] then
    if gap.otherBreaks.isEmpty then [' '] else gap.otherBreaks
  else gap.firstBreak ++ gap.otherBreaks

def addBreak (gap : Gap) (lineBreak : Char) : Gap :=
  if gap.isBroken then { gap with otherBreaks := gap.otherBreaks ++ [lineBreak] }
  else ⟨[], true, [lineBreak], []⟩

/-- Blanks at the start of a line do not count. -/
def addBlank (gap : Gap) (blank : Char) : Gap :=
  if gap.isBroken then gap else { gap with blanks := gap.blanks ++ [blank] }

end Gap

/-- The gap at a place; `allowsTab` says where a tab may stand. -/
def readGap? (allowsTab : Place → Bool) : Nat → Gap → Place → Option (Gap × Place)
  | 0, _, _ => none
  | steps + 1, gap, place =>
      match place.readBreak? with
      | some (lineBreak, place) => readGap? allowsTab steps (gap.addBreak lineBreak) place
      | none =>
          match place.peek? with
          | some c =>
              if !isBlank c then some (gap, place)
              else if c = '\t' && gap.isBroken && !allowsTab place then none
              else readGap? allowsTab steps (gap.addBlank c) place.next
          | none => some (gap, place)

def gapAt? (allowsTab : Place → Bool) (gap : Gap) (place : Place) : Option (Gap × Place) :=
  readGap? allowsTab (place.rest.length + 1) gap place

/-! ### Plain scalars -/

def isFlowMark (c : Char) : Bool :=
  c == ',' || c == '[' || c == ']' || c == '\x7b' || c == '\x7d'

/-- The characters of a plain scalar up to a gap or a mark that ends it. -/
def readWord? (inFlow : Bool) : Nat → Place → Option (List Char × Place)
  | 0, _ => none
  | steps + 1, place =>
      match place.peek? with
      | none => some ([], place)
      | some c =>
          if isGap (some c) then some ([], place)
          else if c = ':' && inFlow && place.peekSecond?.any (fun d => isFlowMark d || d == '?') then
            none
          else if c = ':' && isGap place.peekSecond? then some ([], place)
          else if inFlow && isFlowMark c then some ([], place)
          else (readWord? inFlow steps place.next).map fun (word, after) => (c :: word, after)

/-- A plain scalar and whether it ends after a line break. -/
def readPlain? (inFlow : Bool) (indent : Nat) : Nat → Gap → Place → Option (List Char × Bool × Place)
  | 0, _, _ => none
  | steps + 1, gap, place =>
      if place.atDocumentMark || place.startsWith (· == '#') then some ([], gap.isBroken, place)
      else do
        let (word, after) ← readWord? inFlow (place.rest.length + 1) place
        if word.isEmpty then some ([], gap.isBroken, place)
        else
          let text := gap.text ++ word
          if !after.startsWith (fun c => isBlank c || isBreak c) then some (text, false, after)
          else do
            let (gap, after) ← gapAt? (fun place => indent ≤ place.column) .empty after
            if !inFlow && after.column < indent then some (text, gap.isBroken, after)
            else do
              let (others, isBroken, after) ← readPlain? inFlow indent steps gap after
              some (text ++ others, isBroken, after)

/-! ### Scalars in quotes -/

/-- The value of exactly the given number of hexadecimal digits. -/
def readHex? : Nat → Nat → Place → Option (Nat × Place)
  | 0, value, place => some (value, place)
  | digits + 1, value, place => do
      let digit ← Text.hexDigit? (← place.peek?)
      readHex? digits (value * 16 + digit) place.next

def readCodePoint? (digits : Nat) (place : Place) : Option (Char × Place) := do
  let (point, place) ← readHex? digits 0 place
  if point.isValidChar then some (Char.ofNat point, place) else none

/-- The characters that have an escape of one character, with those for which they stand. -/
def simpleEscapes : List (Char × Char) :=
  [('0', '\x00'), ('a', '\x07'), ('b', '\x08'), ('t', '\t'), ('\t', '\t'), ('n', '\n'),
    ('v', '\x0b'), ('f', '\x0c'), ('r', '\r'), ('e', '\x1b'), (' ', ' '), ('"', '"'), ('/', '/'),
    ('\\', '\\'), ('N', '\u0085'), ('_', '\u00a0'), ('L', '\u2028'), ('P', '\u2029')]

/-- One escaped character after its backslash. -/
def readEscape? (place : Place) : Option (Char × Place) := do
  let c ← place.peek?
  match simpleEscapes.lookup c with
  | some escaped => some (escaped, place.next)
  | none =>
      if c = 'x' then readCodePoint? 2 place.next
      else if c = 'u' then readCodePoint? 4 place.next
      else if c = 'U' then readCodePoint? 8 place.next
      else none

/-- The characters of a scalar in single quotes up to a gap or the closing quote. -/
def readSingleWord? : Nat → Place → Option (List Char × Gap × Place)
  | 0, _ => none
  | steps + 1, place =>
      match place.peek?, place.peekSecond? with
      | none, _ => none
      | some '\'', some '\'' =>
          (readSingleWord? steps (place.skip 2)).map fun (word, after) => ('\'' :: word, after)
      | some c, _ =>
          if c = '\'' || isGap (some c) then some ([], .empty, place)
          else (readSingleWord? steps place.next).map fun (word, after) => (c :: word, after)

/-- The characters of a quoted scalar up to a gap or its end. -/
def readDoubleWord? : Nat → Place → Option (List Char × Gap × Place)
  | 0, _ => none
  | steps + 1, place =>
      match place.peek? with
      | none => none
      | some c =>
          if c = '"' || isGap (some c) then some ([], .empty, place)
          else if c = '\\' then
            match place.next.readBreak? with
            | some (_, place) => some ([], ⟨[], true, [], []⟩, place)
            | none => do
                let (escaped, place) ← readEscape? place.next
                let (word, after) ← readDoubleWord? steps place
                some (escaped :: word, after)
          else (readDoubleWord? steps place.next).map fun (word, after) => (c :: word, after)

/-- A scalar in quotes, after its opening quote. -/
def readQuoted? (quote : Char) : Nat → Place → Option (List Char × Place)
  | 0, _ => none
  | steps + 1, place =>
      if place.atDocumentMark then none
      else do
        let room := place.rest.length + 1
        let (word, gap, after) ←
          if quote = '"' then readDoubleWord? room place else readSingleWord? room place
        if after.startsWith (· == quote) && !gap.isBroken then some (word, after.next)
        else do
          let (gap, after) ← gapAt? (fun _ => true) gap after
          let (others, after) ← readQuoted? quote steps after
          some (word ++ gap.text ++ others, after)

/-! ### Scalars in blocks -/

/-- One line break at the end of a block stays, none or all. -/
inductive Chomping where
  | clip
  | strip
  | keep
  deriving DecidableEq

structure BlockHeader where
  chomping : Chomping
  /-- The indentation against the parent, if it is given. -/
  increment : Option Nat

def chompingOf? (c : Char) : Option Chomping :=
  if c = '+' then some .keep else if c = '-' then some .strip else none

def incrementOf? (c : Char) : Option Nat :=
  if Text.isDigit c && c != '0' then some (Text.digitValue c) else none

/-- The two parts of a header stand in any order, and each may be left out. -/
def readBlockHeader (place : Place) : BlockHeader × Place :=
  match place.peek?.bind chompingOf? with
  | some chomping =>
      match place.peekSecond?.bind incrementOf? with
      | some increment => (⟨chomping, some increment⟩, place.skip 2)
      | none => (⟨chomping, none⟩, place.next)
  | none =>
      match place.peek?.bind incrementOf? with
      | some increment =>
          match place.peekSecond?.bind chompingOf? with
          | some chomping => (⟨chomping, some increment⟩, place.skip 2)
          | none => (⟨.clip, some increment⟩, place.next)
      | none => (⟨.clip, none⟩, place)

/-- The place after the rest of a line, which holds at most a comment. -/
def endLine? (place : Place) : Option Place :=
  let place := place.skipWhile isBlank
  let place :=
    if place.startsWith (· == '#') then place.skipWhile fun c => !isBreak c else place
  match place.readBreak? with
  | some (_, place) => some place
  | none => if place.rest.isEmpty then some place else none

/-- Spaces up to the indentation, or all of them if it is not known. -/
def skipIndent (indent : Option Nat) (place : Place) : Place :=
  let spaces := (place.rest.takeWhile (· == ' ')).length
  match indent with
  | none => place.skip spaces
  | some indent => place.skip (min spaces (indent - place.column))

/-- The empty lines before a line of a block and their greatest column. -/
def readEmptyLines? (indent : Option Nat) : Nat → Nat → Place → Option (List Char × Nat × Place)
  | 0, _, _ => none
  | steps + 1, deepest, place =>
      let place := skipIndent indent place
      let deepest := max deepest place.column
      let isShort := (indent.map fun indent => decide (place.column < indent)).getD true
      if isShort && place.startsWith (· == '\t') then none
      else
        match place.readBreak? with
        | none => some ([], deepest, place)
        | some (lineBreak, place) => do
            let (breaks, deepest, place) ← readEmptyLines? indent steps deepest place
            some (lineBreak :: breaks, deepest, place)

def emptyLinesAt? (indent : Option Nat) (place : Place) : Option (List Char × Nat × Place) :=
  readEmptyLines? indent (place.rest.length + 1) 0 place

/-- A folded block joins lines that start with no blank. -/
def betweenLines (isFolded afterBlank beforeBlank : Bool) (lineBreak breaks : List Char) : List Char :=
  if isFolded && lineBreak == ['\n'] && !afterBlank && !beforeBlank then
    if breaks.isEmpty then [' '] else breaks
  else lineBreak ++ breaks

/-- The lines of a block at its indentation, from the given breaks before the first one. -/
def readBlockLines? (isFolded : Bool) (chomping : Chomping) (indent : Nat) :
    Nat → Bool → List Char → List Char → Place → Option (List Char × Place)
  | 0, _, _, _, _ => none
  | steps + 1, afterBlank, lineBreak, breaks, place =>
      if place.column ≠ indent ∨ place.rest.isEmpty then
        let ending :=
          match chomping with
          | .strip => []
          | .clip => lineBreak
          | .keep => lineBreak ++ breaks
        some (ending, place)
      else do
        let beforeBlank := place.startsWith isBlank
        let line := place.rest.takeWhile fun c => !isBreak c
        let after := place.skip line.length
        let (nextBreak, after) :=
          match after.readBreak? with
          | some (c, after) => ([c], after)
          | none => ([], after)
        let (nextBreaks, _, after) ← emptyLinesAt? (some indent) after
        let (others, after) ←
          readBlockLines? isFolded chomping indent steps beforeBlank nextBreak nextBreaks after
        some (betweenLines isFolded afterBlank beforeBlank lineBreak breaks ++ line ++ others, after)

/-- A scalar in a block that is deeper than its parent. -/
def readBlock? (isFolded : Bool) (parent : Int) (place : Place) : Option (List Char × Place) := do
  let (header, place) := readBlockHeader place
  let place ← endLine? place
  let given := header.increment.map fun increment => (max parent 0).toNat + increment
  let (breaks, deepest, place) ← emptyLinesAt? given place
  let indent := given.getD (max deepest (max (parent + 1) 1).toNat)
  readBlockLines? isFolded header.chomping indent (place.rest.length + 1) false [] breaks place

end FieldRules.Yaml
