import FieldRules.Pattern.Expression
import FieldRules.Text.Ascii
import FieldRules.Text.Blank
import FieldRules.Text.Numeral
import FieldRules.Text.Pieces
import FieldRules.Unicode.Character

/-!
This file reads the text of a pattern into an expression. Each reader takes the rest of the text and
gives back what is left, and it gives nothing for a text that is no pattern.
-/

namespace FieldRules.Pattern

/-- Blanks and comments that run to the end of their line. -/
def skipComments : Bool → List Char → List Char
  | _, [] => []
  | true, c :: rest => skipComments (c != '\n') rest
  | false, c :: rest =>
      if Text.isBlank c then skipComments false rest
      else if c = '#' then skipComments true rest
      else c :: rest

/-- Blanks and comments mean nothing only while the flag for it is on. -/
def skip (ignoreBlanks : Bool) (rest : List Char) : List Char :=
  if ignoreBlanks then skipComments false rest else rest

/-- This function takes characters of a kind, and skips after each of them. -/
def takeSkipping (ignoreBlanks : Bool) (accepts : Char → Bool) :
    Nat → List Char → List Char × List Char
  | 0, rest => ([], rest)
  | _, [] => ([], [])
  | steps + 1, c :: rest =>
      if accepts c then
        let (taken, rest) := takeSkipping ignoreBlanks accepts steps (skip ignoreBlanks rest)
        (c :: taken, rest)
      else ([], c :: rest)

def isMetaChar (c : Char) : Bool :=
  "\\.+*?()|[]\x7b\x7d^$#&-~".toList.contains c

/-- A letter or digit after a backslash is never the character itself. -/
def isEscapable (c : Char) : Bool :=
  isMetaChar c ||
    (Text.isAscii c && !Text.isAsciiAlphanumeric c && c != '<' && c != '>')

def ofHex (digits : List Char) : Nat :=
  digits.foldl (fun value c => value * 16 + (Text.hexDigit? c).getD 0) 0

def charOfHex? (digits : List Char) : Option Char :=
  let point := ofHex digits
  if point < 0xd800 || (0xdfff < point && point < 0x110000) then some (Char.ofNat point) else none

/-- This function takes a fixed count of hexadecimal digits, and skips after each of them. -/
def takeHexDigits (ignoreBlanks : Bool) : Nat → List Char → Option (List Char × List Char)
  | 0, rest => some ([], rest)
  | _ + 1, [] => none
  | count + 1, c :: rest => do
      let _ ← Text.hexDigit? c
      let (digits, rest) ← takeHexDigits ignoreBlanks count (skip ignoreBlanks rest)
      some (c :: digits, rest)

/-- The rest follows the letter `x`, `u` or `U`, whose hexadecimal number has the given length. -/
def readHex (ignoreBlanks : Bool) (count : Nat) (rest : List Char) :
    Option (Literal × List Char) :=
  match skip ignoreBlanks rest with
  | [] => none
  | '\x7b' :: rest =>
      let rest := skip ignoreBlanks rest
      let (digits, rest) := takeSkipping ignoreBlanks (fun c => (Text.hexDigit? c).isSome)
        rest.length rest
      match rest with
      | '\x7d' :: rest => do
          if digits.isEmpty then none
          let c ← charOfHex? digits
          some (⟨c, false⟩, skip ignoreBlanks rest)
      | _ => none
  | rest => do
      let (digits, rest) ← takeHexDigits ignoreBlanks count rest
      let c ← charOfHex? digits
      some (⟨c, count = 2⟩, rest)

/-- The texts around the first pair of marks. -/
def cutAtPair? (first second : Char) : List Char → Option (List Char × List Char)
  | [] => none
  | c :: rest =>
      if c = first ∧ rest.head? = some second then some ([], rest.drop 1)
      else (cutAtPair? first second rest).map fun (before, after) => (c :: before, after)

/-- A query with `!=` asks for the characters with another value. -/
def PropertyQuery.ofName (name : List Char) : PropertyQuery × Bool :=
  match cutAtPair? '!' '=' name with
  | some (name, value) => (.valued name value, true)
  | none =>
      match Text.cutAt? ':' name with
      | some (name, value) => (.valued name value, false)
      | none =>
          match Text.cutAt? '=' name with
          | some (name, value) => (.valued name value, false)
          | none => (.named name, false)

/-- The rest follows the letter `p` or `P`. -/
def readProperty (ignoreBlanks negated : Bool) (rest : List Char) : Option (Atom × List Char) :=
  match skip ignoreBlanks rest with
  | [] => none
  | '\x7b' :: rest =>
      let rest := skip ignoreBlanks rest
      let (name, rest) := takeSkipping ignoreBlanks (· != '\x7d') rest.length rest
      match rest with
      | _ :: rest =>
          let (query, inverted) := PropertyQuery.ofName name
          some (.property query (negated != inverted), rest)
      | [] => none
  | c :: rest =>
      if c = '\\' then none else some (.property (.named [c]) negated, skip ignoreBlanks rest)

/-- A brace after a word boundary may name the side of the word. -/
def readBoundary (ignoreBlanks : Bool) (rest : List Char) : Option (Atom × List Char) :=
  match rest with
  | '\x7b' :: inside =>
      let isNameChar (c : Char) : Bool := Text.isAsciiLetter c || c == '-'
      match skip ignoreBlanks inside with
      | [] => none
      | c :: more =>
          if !isNameChar c then some (.assertion .boundary, rest)
          else
            let (name, after) := takeSkipping ignoreBlanks isNameChar (more.length + 1) (c :: more)
            match after with
            | '\x7d' :: after =>
                match String.ofList name with
                | "start" => some (.assertion .wordStart, after)
                | "end" => some (.assertion .wordEnd, after)
                | "start-half" => some (.assertion .wordStartHalf, after)
                | "end-half" => some (.assertion .wordEndHalf, after)
                | _ => none
            | _ => none
  | _ => some (.assertion .boundary, rest)

/-- The rest follows a backslash. -/
def readEscape (ignoreBlanks : Bool) : List Char → Option (Atom × List Char)
  | [] => none
  | c :: rest =>
      let special (c : Char) : Option (Atom × List Char) := some (.literal ⟨c, false⟩, rest)
      match c with
      | 'x' => (readHex ignoreBlanks 2 rest).map fun (literal, rest) => (.literal literal, rest)
      | 'u' => (readHex ignoreBlanks 4 rest).map fun (literal, rest) => (.literal literal, rest)
      | 'U' => (readHex ignoreBlanks 8 rest).map fun (literal, rest) => (.literal literal, rest)
      | 'p' => readProperty ignoreBlanks false rest
      | 'P' => readProperty ignoreBlanks true rest
      | 'd' => some (.perl .digit false, rest)
      | 'D' => some (.perl .digit true, rest)
      | 's' => some (.perl .space false, rest)
      | 'S' => some (.perl .space true, rest)
      | 'w' => some (.perl .word false, rest)
      | 'W' => some (.perl .word true, rest)
      | 'a' => special '\x07'
      | 'f' => special '\x0c'
      | 't' => special '\t'
      | 'n' => special '\n'
      | 'r' => special '\r'
      | 'v' => special '\x0b'
      | 'A' => some (.assertion .textStart, rest)
      | 'z' => some (.assertion .textEnd, rest)
      | 'b' => readBoundary ignoreBlanks rest
      | 'B' => some (.assertion .notBoundary, rest)
      | '<' => some (.assertion .wordStart, rest)
      | '>' => some (.assertion .wordEnd, rest)
      | c => if isEscapable c then special c else none

/-! The readers of bracketed sets. -/

def AsciiClass.ofName? (name : String) : Option AsciiClass :=
  match name with
  | "alnum" => some .alnum
  | "alpha" => some .alpha
  | "ascii" => some .ascii
  | "blank" => some .blank
  | "cntrl" => some .cntrl
  | "digit" => some .digit
  | "graph" => some .graph
  | "lower" => some .lower
  | "print" => some .print
  | "punct" => some .punct
  | "space" => some .space
  | "upper" => some .upper
  | "word" => some .word
  | "xdigit" => some .xdigit
  | _ => none

/-- The rest follows an inner opening bracket that may begin a named ASCII class. -/
def readAsciiClass : List Char → Option (SetItem × List Char)
  | ':' :: rest =>
      let (negated, rest) := match rest with
        | '^' :: rest => (true, rest)
        | rest => (false, rest)
      match Text.cutAt? ':' rest with
      | some (name, ']' :: rest) =>
          (AsciiClass.ofName? (String.ofList name)).map fun kind => (.ascii kind negated, rest)
      | _ => none
  | _ => none

/-- One character, escape or class inside a set. -/
def readSetAtom (ignoreBlanks : Bool) : List Char → Option (Atom × List Char)
  | [] => none
  | '\\' :: rest => readEscape ignoreBlanks rest
  | c :: rest => some (.literal ⟨c, false⟩, rest)

def SetItem.ofAtom? : Atom → Option SetItem
  | .literal value => some (.literal value)
  | .perl kind negated => some (.perl kind negated)
  | .property query negated => some (.property query negated)
  | _ => none

/-- A hyphen before a closing bracket or another hyphen does not make a range. -/
def readSetRange (ignoreBlanks : Bool) (rest : List Char) : Option (SetItem × List Char) := do
  let (first, rest) ← readSetAtom ignoreBlanks rest
  let rest := skip ignoreBlanks rest
  match rest with
  | [] => none
  | '-' :: after =>
      let after := skip ignoreBlanks after
      match after with
      | ']' :: _ => (SetItem.ofAtom? first).map fun item => (item, rest)
      | '-' :: _ => (SetItem.ofAtom? first).map fun item => (item, rest)
      | [] => none
      | _ =>
          let (last, rest) ← readSetAtom ignoreBlanks after
          match first, last with
          | .literal first, .literal last =>
              if first.char ≤ last.char then some (.range first last, rest) else none
          | _, _ => none
  | _ => (SetItem.ofAtom? first).map fun item => (item, rest)

/-- An open set waits for its end, and an operation for its right side. -/
inductive SetFrame where
  | opened (negated : Bool) (outer : List SetItem)
  | operation (kind : SetOperation) (left : SetItem)

/-- Hyphens at the front of a set, and then a closing bracket, stand for themselves. -/
def readSetFront (ignoreBlanks : Bool) : Nat → List SetItem → List Char →
    Option (List SetItem × List Char)
  | 0, _, _ => none
  | _ + 1, _, [] => none
  | steps + 1, items, c :: rest =>
      if c = '-' then
        readSetFront ignoreBlanks steps (.literal ⟨'-', false⟩ :: items) (skip ignoreBlanks rest)
      else if c = ']' && items.isEmpty then
        match skip ignoreBlanks rest with
        | [] => none
        | rest => some ([.literal ⟨']', false⟩], rest)
      else some (items, c :: rest)

/-- The rest follows an opening bracket, and the items stand in reverse order. -/
def readSetOpen (ignoreBlanks : Bool) (rest : List Char) :
    Option (Bool × List SetItem × List Char) :=
  let rest := skip ignoreBlanks rest
  let (negated, rest) := match rest with
    | '^' :: rest => (true, skip ignoreBlanks rest)
    | rest => (false, rest)
  (readSetFront ignoreBlanks (rest.length + 1) [] rest).map fun (items, rest) =>
    (negated, items, rest)

/-- Operations of one set apply from left to right. -/
def closeOperation (frames : List SetFrame) (item : SetItem) : SetItem × List SetFrame :=
  match frames with
  | .operation kind left :: frames => (.operation kind left item, frames)
  | frames => (item, frames)

/-- This function reads up to the end of the outermost set. -/
def readSetBody (ignoreBlanks : Bool) : Nat → List SetFrame → List SetItem → List Char →
    Option (Bool × SetItem × List Char)
  | 0, _, _, _ => none
  | steps + 1, frames, items, rest =>
      let operate (kind : SetOperation) (rest : List Char) :=
        let (left, frames) := closeOperation frames (.ofItems items.reverse)
        readSetBody ignoreBlanks steps (.operation kind left :: frames) [] rest
      match skip ignoreBlanks rest with
      | [] => none
      | '[' :: rest =>
          match readAsciiClass rest with
          | some (item, rest) => readSetBody ignoreBlanks steps frames (item :: items) rest
          | none => do
              let (negated, inner, rest) ← readSetOpen ignoreBlanks rest
              readSetBody ignoreBlanks steps (.opened negated items :: frames) inner rest
      | ']' :: rest =>
          let (item, frames) := closeOperation frames (.ofItems items.reverse)
          match frames with
          | [.opened negated _] => some (negated, item, rest)
          | .opened negated outer :: frames =>
              readSetBody ignoreBlanks steps frames (.bracketed negated item :: outer) rest
          | _ => none
      | '&' :: '&' :: rest => operate .intersection rest
      | '-' :: '-' :: rest => operate .difference rest
      | '~' :: '~' :: rest => operate .symmetricDifference rest
      | rest => do
          let (item, rest) ← readSetRange ignoreBlanks rest
          readSetBody ignoreBlanks steps frames (item :: items) rest

/-- The rest follows the opening bracket of an outermost set. -/
def readSet (ignoreBlanks : Bool) (rest : List Char) : Option (Expression × List Char) := do
  let (negated, items, rest) ← readSetOpen ignoreBlanks rest
  let (negated, inner, rest) ←
    readSetBody ignoreBlanks (rest.length + 1) [.opened negated []] items rest
  some (.bracketed negated inner, rest)

/-! The readers of repetitions. -/

/-- A count has 32 bits and may stand between blanks. -/
def readCount (ignoreBlanks : Bool) (rest : List Char) : Option (Nat × List Char) :=
  let rest := Text.trimStart rest
  let (digits, rest) := takeSkipping ignoreBlanks Text.isDigit rest.length rest
  let (_, rest) := takeSkipping ignoreBlanks Text.isBlank rest.length rest
  let count := Text.ofDigits digits
  if digits.isEmpty || 4294967296 ≤ count then none else some (count, rest)

/-- The rest follows the opening brace of a repetition. -/
def readBounds (ignoreBlanks : Bool) (rest : List Char) :
    Option (Nat × Option Nat × List Char) := do
  let (least, rest) ← readCount ignoreBlanks (skip ignoreBlanks rest)
  let (most, rest) ← match rest with
    | ',' :: rest =>
        match skip ignoreBlanks rest with
        | '\x7d' :: _ => some (none, skip ignoreBlanks rest)
        | rest => (readCount ignoreBlanks rest).map fun (most, rest) => (some most, rest)
    | rest => some (some least, rest)
  match rest with
  | '\x7d' :: rest =>
      if most.any (· < least) then none else some (least, most, rest)
  | _ => none

/-- A question mark after a repetition only changes which match is preferred. -/
def dropLazyMark (rest : List Char) : List Char :=
  match rest with
  | '?' :: rest => rest
  | rest => rest

/-! The readers of groups. -/

def Flag.ofChar? : Char → Option Flag
  | 'i' => some .ignoreCase
  | 'm' => some .multiLine
  | 's' => some .dotAll
  | 'U' => some .swapGreed
  | 'u' => some .unicode
  | 'R' => some .carriageReturn
  | 'x' => some .ignoreBlanks
  | _ => none

/-- This function reads flags up to the colon or parenthesis that ends them. -/
def readFlags (negated dangling : Bool) (change : FlagChange) :
    List Char → Option (FlagChange × Char × List Char)
  | [] => none
  | c :: rest =>
      if c = ':' || c = ')' then if dangling then none else some (change, c, rest)
      else if c = '-' then if negated then none else readFlags true true change rest
      else
        match Flag.ofChar? c with
        | none => none
        | some flag =>
            if change.any (·.1 == flag) then none
            else readFlags negated false (change ++ [(flag, !negated)]) rest

def isNameStart (c : Char) : Bool :=
  c == '_' || Unicode.isAlphabetic c

def isNamePart (c : Char) : Bool :=
  c == '_' || c == '.' || c == '[' || c == ']' || Unicode.isAlphanumeric c

/-- The rest follows the angle bracket that opens the name of a group. -/
def readGroupName (rest : List Char) : Option (String × List Char) := do
  let (name, rest) ← Text.cutAt? '>' rest
  match name with
  | [] => none
  | first :: others =>
      if isNameStart first && others.all isNamePart then some (String.ofList name, rest) else none

/-- What the text after an opening parenthesis begins. -/
inductive GroupOpening where
  | setFlags (change : FlagChange)
  | plain (change : FlagChange)
  | numbered
  | named (name : String)

def readGroupOpening (rest : List Char) : Option (GroupOpening × List Char) :=
  match rest with
  | '?' :: '=' :: _ => none
  | '?' :: '!' :: _ => none
  | '?' :: '<' :: '=' :: _ => none
  | '?' :: '<' :: '!' :: _ => none
  | '?' :: 'P' :: '<' :: rest =>
      (readGroupName rest).map fun (name, rest) => (.named name, rest)
  | '?' :: '<' :: rest => (readGroupName rest).map fun (name, rest) => (.named name, rest)
  | '?' :: rest => do
      let (change, ending, rest) ← readFlags false false [] rest
      if ending = ')' then
        if change.isEmpty then none else some (.setFlags change, rest)
      else some (.plain change, rest)
  | rest => some (.numbered, rest)

def flagState? (flag : Flag) (change : FlagChange) : Option Bool :=
  (change.find? (·.1 == flag)).map Prod.snd

/-- An open group keeps what stood before it. -/
structure GroupFrame where
  parts : List Expression
  branches : List Expression
  captures : Bool
  change : FlagChange
  ignoreBlanks : Bool

/-- The state of a reader inside a group; lists stand in reverse order. -/
structure Reading where
  frames : List GroupFrame
  branches : List Expression
  parts : List Expression
  ignoreBlanks : Bool
  names : List String

def Reading.start : Reading :=
  ⟨[], [], [], false, []⟩

/-- The expression of the current group. -/
def Reading.finished (reading : Reading) : Expression :=
  let last := Expression.ofParts reading.parts.reverse
  if reading.branches.isEmpty then last
  else .alternation (reading.branches.reverse ++ [last])

def Reading.push (reading : Reading) (part : Expression) : Reading :=
  { reading with parts := part :: reading.parts }

/-- A repetition takes the part before it, which is no change of flags. -/
def Reading.repeatLast (reading : Reading) (least : Nat) (most : Option Nat) : Option Reading :=
  match reading.parts with
  | [] => none
  | .empty :: _ => none
  | .flags _ :: _ => none
  | part :: parts => some { reading with parts := .repetition part least most :: parts }

def Reading.openGroup (reading : Reading) (captures : Bool) (change : FlagChange) : Reading :=
  { reading with
    frames := ⟨reading.parts, reading.branches, captures, change, reading.ignoreBlanks⟩ ::
      reading.frames
    branches := []
    parts := []
    ignoreBlanks := (flagState? .ignoreBlanks change).getD reading.ignoreBlanks }

def Reading.closeGroup (reading : Reading) : Option Reading :=
  match reading.frames with
  | [] => none
  | frame :: frames =>
      some { reading with
        frames := frames
        branches := frame.branches
        parts := .group frame.captures frame.change reading.finished :: frame.parts
        ignoreBlanks := frame.ignoreBlanks }

def Reading.open? (reading : Reading) : GroupOpening → Option Reading
  | .setFlags change =>
      some { reading.push (.flags change) with
        ignoreBlanks := (flagState? .ignoreBlanks change).getD reading.ignoreBlanks }
  | .plain change => some (reading.openGroup false change)
  | .numbered => some (reading.openGroup true [])
  | .named name =>
      if reading.names.contains name then none
      else some { reading.openGroup true [] with names := name :: reading.names }

def readParts : Nat → Reading → List Char → Option Expression
  | 0, _, _ => none
  | steps + 1, reading, rest =>
      let blanks := reading.ignoreBlanks
      let repeated (least : Nat) (most : Option Nat) (rest : List Char) := do
        let reading ← reading.repeatLast least most
        readParts steps reading (dropLazyMark rest)
      match skip blanks rest with
      | [] => if reading.frames.isEmpty then some reading.finished else none
      | '(' :: rest => do
          let (opening, rest) ← readGroupOpening (skip blanks rest)
          let reading ← reading.open? opening
          readParts steps reading rest
      | ')' :: rest => do
          let reading ← reading.closeGroup
          readParts steps reading rest
      | '|' :: rest =>
          let branch := Expression.ofParts reading.parts.reverse
          readParts steps
            { reading with branches := branch :: reading.branches, parts := [] } rest
      | '[' :: rest => do
          let (part, rest) ← readSet blanks rest
          readParts steps (reading.push part) rest
      | '?' :: rest => repeated 0 (some 1) rest
      | '*' :: rest => repeated 0 none rest
      | '+' :: rest => repeated 1 none rest
      | '\x7b' :: rest => do
          let (least, most, rest) ← readBounds blanks rest
          repeated least most (skip blanks rest)
      | '\\' :: rest => do
          let (atom, rest) ← readEscape blanks rest
          readParts steps (reading.push (.atom atom)) rest
      | '.' :: rest => readParts steps (reading.push (.atom .dot)) rest
      | '^' :: rest => readParts steps (reading.push (.atom (.assertion .caret))) rest
      | '$' :: rest => readParts steps (reading.push (.atom (.assertion .dollar))) rest
      | c :: rest => readParts steps (reading.push (.atom (.literal ⟨c, false⟩))) rest

/-- A pattern nests at most this deep. -/
def depthLimit : Nat := 250

def Expression.ofText? (text : List Char) : Option Expression :=
  (readParts (text.length + 1) .start text).filter fun expression =>
    expression.depth ≤ depthLimit

end FieldRules.Pattern
