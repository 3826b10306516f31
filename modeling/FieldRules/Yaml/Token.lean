import FieldRules.Text.Numeral
import FieldRules.Text.Utf8
import FieldRules.Yaml.Scalar

/-!
This file cuts YAML texts into tokens. The indentation opens and closes blocks, and a colon turns
the token before it on the line into a key.
-/

namespace FieldRules.Yaml

inductive Token where
  | directive (name : String) (handle tagStart : String)
  | documentStart
  | documentEnd
  | blockList
  | blockTable
  | blockEnd
  | flowList
  | flowListEnd
  | flowTable
  | flowTableEnd
  | item
  | comma
  | key
  | value
  | alias (name : String)
  | anchor (name : String)
  | tag (handle suffix : String)
  | scalar (isPlain : Bool) (text : String)
  deriving DecidableEq, Repr

/-- A colon on its line may turn the token into a key. -/
structure PossibleKey where
  /-- The number of tokens before the key. -/
  position : Nat
  line : Nat
  column : Nat
  /-- The number of characters that were left at the key. -/
  remaining : Nat
  isRequired : Bool

/-- The state of the scan; the lists of tokens and indentations have the last one first. -/
structure Scan where
  place : Place
  tokens : List Token
  /-- The column of the innermost block, or -1 outside of all blocks. -/
  indent : Int
  outerIndents : List Int
  /-- The possible key of each open bracket, and one for the blocks around all brackets. -/
  possibleKeys : List (Option PossibleKey)
  allowsKey : Bool

namespace Scan

def start (text : List Char) : Scan :=
  ⟨⟨text, 0, 0⟩, [], -1, [], [none], true⟩

def inFlow (scan : Scan) : Bool :=
  1 < scan.possibleKeys.length

def column (scan : Scan) : Int :=
  scan.place.column

def add (scan : Scan) (token : Token) : Scan :=
  { scan with tokens := token :: scan.tokens }

/-- This function adds a token in front of all but the first ones. -/
def addAt (scan : Scan) (position : Nat) (token : Token) : Scan :=
  let later := scan.tokens.length - position
  { scan with tokens := scan.tokens.take later ++ token :: scan.tokens.drop later }

/-- A deeper column opens a block. -/
def openBlock (scan : Scan) (column : Int) (position : Nat) (token : Token) : Scan :=
  if scan.inFlow || column ≤ scan.indent then scan
  else
    { scan.addAt position token with
      indent := column, outerIndents := scan.indent :: scan.outerIndents }

/-- The blocks that are deeper than a column end. -/
def closeBlocks (column : Int) (scan : Scan) : List Int → Scan
  | [] => { scan with outerIndents := [] }
  | outer :: outerIndents =>
      if scan.inFlow || scan.indent ≤ column then
        { scan with outerIndents := outer :: outerIndents }
      else closeBlocks column { scan.add .blockEnd with indent := outer } outerIndents

def closeTo (scan : Scan) (column : Int) : Scan :=
  closeBlocks column scan scan.outerIndents

def setKey (scan : Scan) (possible : Option PossibleKey) : Scan :=
  { scan with possibleKeys := possible :: scan.possibleKeys.tail }

/-- A key that has to be one must not be given up. -/
def dropKey? (scan : Scan) : Option Scan :=
  match scan.possibleKeys with
  | some possible :: _ => if possible.isRequired then none else some (scan.setKey none)
  | _ => some scan

/-- Each new line at the column of a table has to be a key. -/
def saveKey? (scan : Scan) : Option Scan :=
  if scan.allowsKey then do
    let isRequired := !scan.inFlow && scan.indent == scan.column
    let saved ← scan.dropKey?
    some (saved.setKey (some ⟨scan.tokens.length, scan.place.line, scan.place.column,
      scan.place.rest.length, isRequired⟩))
  else some scan

/-- A key ends on its line, within this many characters. -/
def keyLength : Nat := 1024

def isStale (place : Place) (possible : PossibleKey) : Bool :=
  possible.line < place.line || possible.remaining - place.rest.length > keyLength

def dropStale? (place : Place) :
    List (Option PossibleKey) → Option (List (Option PossibleKey))
  | [] => some []
  | possible :: others => do
      let others ← dropStale? place others
      match possible with
      | none => some (none :: others)
      | some key =>
          if !isStale place key then some (some key :: others)
          else if key.isRequired then none
          else some (none :: others)

/-! ### The space between tokens -/

/-- Blanks, comments and line breaks before the next token. -/
def skipGap : Nat → Scan → Scan
  | 0, scan => scan
  | steps + 1, scan =>
      let place :=
        if scan.place.column = 0 && scan.place.startsWith (· == '\ufeff') then scan.place.next
        else scan.place
      let place := place.skipWhile fun c => c == ' ' || (c == '\t' && (scan.inFlow || !scan.allowsKey))
      let place :=
        if place.startsWith (· == '#') then place.skipWhile fun c => !isBreak c else place
      match place.readBreak? with
      | some (_, place) =>
          skipGap steps { scan with place, allowsKey := scan.allowsKey || !scan.inFlow }
      | none => { scan with place }

/-! ### Names and tags -/

def isNameChar (c : Char) : Bool :=
  Text.isAsciiAlphanumeric c || c == '_' || c == '-'

def readName (place : Place) : List Char × Place :=
  (place.rest.takeWhile isNameChar, place.skipWhile isNameChar)

/-- The name of an anchor or an alias, after its mark. -/
def readAnchor? (place : Place) : Option (String × Place) :=
  let (name, after) := readName place
  let ends := after.atGap ||
    after.startsWith fun c => ['?', ':', ',', ']', '\x7d', '%', '@', '\x60'].contains c
  if name.isEmpty || !ends then none else some (String.ofList name, after)

def isTagChar (isVerbatim : Bool) (c : Char) : Bool :=
  isNameChar c || [';', '/', '?', ':', '@', '&', '=', '+', '$', '.', '!', '~', '*', '\'', '(', ')',
    '%'].contains c || (isVerbatim && [',', '[', ']'].contains c)

/-- The byte that a percent sign and two hexadecimal digits stand for. -/
def readOctet? : List Char → Option (Nat × List Char)
  | '%' :: high :: low :: rest => do
      some ((← Text.hexDigit? high) * 16 + (← Text.hexDigit? low), rest)
  | _ => none

def readTrailing? : Nat → List Char → Option (List Nat × List Char)
  | 0, text => some ([], text)
  | count + 1, text => do
      let (octet, rest) ← readOctet? text
      if !Text.isContinuation octet then none
      let (octets, rest) ← readTrailing? count rest
      some (octet :: octets, rest)

/-- The number of bytes that follow the first byte of a character. -/
def trailingCount? (lead : Nat) : Option Nat :=
  if lead < 0x80 then some 0
  else if lead < 0xc0 then none
  else if lead < 0xe0 then some 1
  else if lead < 0xf0 then some 2
  else if lead < 0xf8 then some 3
  else none

/-- The bytes between percent signs make up whole characters. -/
def decodeTag? : Nat → List Char → Option (List Char)
  | 0, _ => none
  | _, [] => some []
  | steps + 1, c :: rest =>
      if c = '%' then do
        let (lead, rest) ← readOctet? (c :: rest)
        let (octets, rest) ← readTrailing? (← trailingCount? lead) rest
        let text ← decodeTag? steps rest
        some ((Text.decodeUtf8? (lead :: octets)).getD ['\ufffd'] ++ text)
      else (decodeTag? steps rest).map (c :: ·)

def readTagText? (isVerbatim : Bool) (place : Place) : Option (List Char × Place) := do
  let text := place.rest.takeWhile (isTagChar isVerbatim)
  some (← decodeTag? (text.length + 1) text, place.skipWhile (isTagChar isVerbatim))

/-- A tag is written in full, or it has a handle and a suffix. -/
def readTag? (inFlow : Bool) (place : Place) : Option (Token × Place) := do
  let (token, after) ←
    match place.rest with
    | '!' :: '<' :: _ =>
        let (suffix, after) ← readTagText? true (place.skip 2)
        if suffix.isEmpty || !after.startsWith (· == '>') then none
        else some (Token.tag "" (String.ofList suffix), after.next)
    | _ =>
        let (name, afterName) := readName place.next
        let (handle, afterHandle) :=
          if afterName.startsWith (· == '!') then ('!' :: name ++ ['!'], afterName.next)
          else (['!'], place.next)
        let (suffix, after) ← readTagText? false afterHandle
        if suffix.isEmpty && handle.length != 1 then none
        else some (Token.tag (String.ofList handle) (String.ofList suffix), after)
  if after.atGap || (inFlow && after.startsWith (· == ',')) then some (token, after) else none

/-! ### Directives -/

def readVersion? (place : Place) : Option (Token × Place) :=
  let major := place.rest.takeWhile Text.isDigit
  let afterMajor := place.skipWhile Text.isDigit
  let minor := afterMajor.next.rest.takeWhile Text.isDigit
  let isKnown := Text.ofDigits major = 1 && [1, 2].contains (Text.ofDigits minor)
  if !afterMajor.startsWith (· == '.') || major.length > 9 || minor.length > 9 || !isKnown then none
  else some (.directive "YAML" "" "", afterMajor.next.skipWhile Text.isDigit)

def readTagDirective? (place : Place) : Option (Token × Place) := do
  if !place.startsWith (· == '!') then none
  let (name, after) := readName place.next
  let closed := after.startsWith (· == '!')
  if !closed && !name.isEmpty then none
  let handle := if closed then '!' :: name ++ ['!'] else ['!']
  let after := if closed then after.next else after
  if !after.startsWith isBlank then none
  let (tagStart, after) ← readTagText? true (after.skipWhile isBlank)
  if tagStart.isEmpty || !after.atGap then none
  some (.directive "TAG" (String.ofList handle) (String.ofList tagStart), after)

/-- Only two directives are known. -/
def readDirective? (place : Place) : Option (Token × Place) := do
  let (name, after) := readName place.next
  let inside := after.skipWhile isBlank
  let (token, after) ←
    if name = "YAML".toList then readVersion? inside
    else if name = "TAG".toList then readTagDirective? inside
    else none
  some (token, ← endLine? after)

/-! ### Tokens -/

def addScalar (scan : Scan) (isPlain : Bool) (text : List Char) (place : Place) : Scan :=
  { scan.add (.scalar isPlain (String.ofList text)) with place }

/-- A mark of the given number of characters. -/
def addMark (scan : Scan) (token : Token) (length : Nat) : Scan :=
  { scan.add token with place := scan.place.skip length }

def openFlow? (scan : Scan) (token : Token) : Option Scan := do
  let scan ← scan.saveKey?
  some { scan.addMark token 1 with
    possibleKeys := none :: scan.possibleKeys, allowsKey := true }

def closeFlow? (scan : Scan) (token : Token) : Option Scan := do
  let scan ← scan.dropKey?
  let possibleKeys := if scan.inFlow then scan.possibleKeys.tail else scan.possibleKeys
  some { scan.addMark token 1 with possibleKeys, allowsKey := false }

/-- A mark that opens a block stands where a key may stand. -/
def openMarked? (scan : Scan) (block : Token) : Option Scan :=
  if scan.inFlow then some scan
  else if !scan.allowsKey then none
  else some (scan.openBlock scan.column scan.tokens.length block)

def item? (scan : Scan) : Option Scan := do
  let scan ← (← scan.openMarked? .blockList).dropKey?
  some { scan.addMark .item 1 with allowsKey := true }

def key? (scan : Scan) : Option Scan := do
  let scan ← (← scan.openMarked? .blockTable).dropKey?
  some { scan.addMark .key 1 with allowsKey := !scan.inFlow }

/-- The value of a key that is marked by a colon. -/
def value? (scan : Scan) : Option Scan :=
  match scan.possibleKeys with
  | some possible :: _ =>
      let scan := (scan.setKey none).addAt possible.position .key
      let scan := scan.openBlock possible.column possible.position .blockTable
      some { scan.addMark .value 1 with allowsKey := false }
  | _ => do
      let scan ← scan.openMarked? .blockTable
      some { scan.addMark .value 1 with allowsKey := !scan.inFlow }

def comma? (scan : Scan) : Option Scan := do
  some { (← scan.dropKey?).addMark .comma 1 with allowsKey := true }

def document? (scan : Scan) (token : Token) : Option Scan := do
  let scan ← (scan.closeTo (-1)).dropKey?
  some { scan.addMark token 3 with allowsKey := false }

def directive? (scan : Scan) : Option Scan := do
  let scan ← (scan.closeTo (-1)).dropKey?
  let (token, place) ← readDirective? scan.place
  some { scan.add token with place, allowsKey := false }

def block? (scan : Scan) (isFolded : Bool) : Option Scan := do
  let scan ← scan.dropKey?
  let (text, place) ← readBlock? isFolded scan.indent scan.place.next
  some { scan.addScalar false text place with allowsKey := true }

def quoted? (scan : Scan) (quote : Char) : Option Scan := do
  let scan ← scan.saveKey?
  let (text, place) ← readQuoted? quote (scan.place.rest.length + 1) scan.place.next
  some { scan.addScalar false text place with allowsKey := false }

def plain? (scan : Scan) : Option Scan := do
  let scan ← scan.saveKey?
  let (text, isBroken, place) ←
    readPlain? scan.inFlow (scan.indent + 1).toNat (scan.place.rest.length + 1) .empty scan.place
  some { scan.addScalar true text place with allowsKey := isBroken }

def named? (scan : Scan) (token : String → Token) : Option Scan := do
  let scan ← scan.saveKey?
  let (name, place) ← readAnchor? scan.place.next
  some { scan.add (token name) with place, allowsKey := false }

def tag? (scan : Scan) : Option Scan := do
  let scan ← scan.saveKey?
  let (token, place) ← readTag? scan.inFlow scan.place
  some { scan.add token with place, allowsKey := false }

/-- The marks with which no plain scalar starts. -/
def marks : List Char :=
  ['-', '?', ':', ',', '[', ']', '\x7b', '\x7d', '#', '&', '*', '!', '|', '>', '\'', '"', '%', '@',
    '\x60']

/-- A mark starts a plain scalar if no gap follows. -/
def startsPlain (scan : Scan) (c : Char) : Bool :=
  let second := scan.place.peekSecond?
  (!marks.contains c && !isBlank c) || (c == '-' && !second.any isBlank) ||
    (!scan.inFlow && (c == '?' || c == ':') && !isGap second)

/-- This function reads the token that starts with the given character. -/
def token? (scan : Scan) (c : Char) : Option Scan :=
  let endsHere := isGap scan.place.peekSecond?
  if scan.place.column = 0 && c = '%' then scan.directive?
  else if scan.place.startsDocument '-' then scan.document? .documentStart
  else if scan.place.startsDocument '.' then scan.document? .documentEnd
  else if c = '[' then scan.openFlow? .flowList
  else if c = '\x7b' then scan.openFlow? .flowTable
  else if c = ']' then scan.closeFlow? .flowListEnd
  else if c = '\x7d' then scan.closeFlow? .flowTableEnd
  else if c = ',' then scan.comma?
  else if c = '-' && endsHere then scan.item?
  else if c = '?' && (scan.inFlow || endsHere) then scan.key?
  else if c = ':' && (scan.inFlow || endsHere) then scan.value?
  else if c = '*' then scan.named? .alias
  else if c = '&' then scan.named? .anchor
  else if c = '!' then scan.tag?
  else if c = '|' && !scan.inFlow then scan.block? false
  else if c = '>' && !scan.inFlow then scan.block? true
  else if c = '\'' || c = '"' then scan.quoted? c
  else if scan.startsPlain c then scan.plain?
  else none

/-- The end of the text ends all blocks. -/
def run? : Nat → Scan → Option Scan
  | 0, _ => none
  | steps + 1, scan => do
      let scan := skipGap (scan.place.rest.length + 1) scan
      let possibleKeys ← dropStale? scan.place scan.possibleKeys
      let scan := { scan with possibleKeys }.closeTo scan.column
      match scan.place.peek? with
      | none => (scan.closeTo (-1)).dropKey?
      | some c => run? steps (← scan.token? c)

end Scan

/-- The tokens of a text, which holds only allowed characters. -/
def tokens? (text : List Char) : Option (List Token) := do
  if !text.all isAllowed then none
  let scan ← Scan.run? (2 * text.length + 2) (Scan.start text)
  some scan.tokens.reverse

end FieldRules.Yaml
