import FieldRules.Source.Literal
import FieldRules.Source.Token
import FieldRules.Text.Quoted

/-!
This file reads Rust source as tokens. Blanks and comments fall away, and a comment that documents
an item becomes an attribute.
-/

namespace FieldRules.Source

/-- The marks of direction between left and right count as blanks. -/
def isSourceBlank (c : Char) : Bool :=
  Text.isBlank c || c == '\u200e' || c == '\u200f'

/-! ### Comments -/

/-- The text inside a comment and the text after it; comments nest. -/
def readBlockComment? : Nat → List Char → Option (List Char × List Char)
  | _, [] => none
  | depth, '/' :: '*' :: rest =>
      (readBlockComment? (depth + 1) rest).map fun (inside, rest) => ('/' :: '*' :: inside, rest)
  | 0, '*' :: '/' :: rest => some ([], rest)
  | depth + 1, '*' :: '/' :: rest =>
      (readBlockComment? depth rest).map fun (inside, rest) => ('*' :: '/' :: inside, rest)
  | depth, c :: rest => (readBlockComment? depth rest).map fun (inside, rest) => (c :: inside, rest)

def isLineEnd (c : Char) : Bool :=
  c == '\n'

/-- The text after a comment that documents nothing. -/
def dropComment? (text : List Char) : Option (List Char) :=
  let skipLine (rest : List Char) : Option (List Char) := some (rest.dropWhile fun c => !isLineEnd c)
  match text with
  | '/' :: '/' :: '/' :: '/' :: rest => skipLine rest
  | '/' :: '/' :: '/' :: _ => none
  | '/' :: '/' :: '!' :: _ => none
  | '/' :: '/' :: rest => skipLine rest
  | '/' :: '*' :: '*' :: '/' :: rest => some rest
  | '/' :: '*' :: '*' :: '*' :: rest => (readBlockComment? 0 ('*' :: '*' :: rest)).map Prod.snd
  | '/' :: '*' :: '*' :: _ => none
  | '/' :: '*' :: '!' :: _ => none
  | '/' :: '*' :: rest => (readBlockComment? 0 rest).map Prod.snd
  | _ => none

def skipBlanks : Nat → List Char → List Char
  | 0, text => text
  | steps + 1, text =>
      match dropComment? text with
      | some rest => skipBlanks steps rest
      | none =>
          match text with
          | c :: rest => if isSourceBlank c then skipBlanks steps rest else text
          | [] => []

/-- A carriage return inside documentation needs its line feed. -/
def hasLoneReturn : List Char → Bool
  | [] => false
  | '\r' :: '\n' :: rest => hasLoneReturn rest
  | '\r' :: _ => true
  | _ :: rest => hasLoneReturn rest

def documentation (isInner : Bool) (text : List Char) : List Token :=
  let content := Token.group .square
    [.word "doc", .single '=', .literal (Text.quoted (String.ofList text))]
  if isInner then [.single '#', .single '!', content] else [.single '#', content]

/-- A comment that documents an item, with the text after it. -/
def readDocumentation? (text : List Char) : Option (List Token × List Char) := do
  let line (isInner : Bool) (rest : List Char) : Bool × List Char × List Char :=
    let inside := rest.takeWhile fun c => !isLineEnd c
    let inside := if inside.getLast? = some '\r' then inside.dropLast else inside
    (isInner, inside, rest.dropWhile fun c => !isLineEnd c)
  let (isInner, inside, rest) ←
    match text with
    | '/' :: '/' :: '!' :: rest => some (line true rest)
    | '/' :: '/' :: '/' :: rest => some (line false rest)
    | '/' :: '*' :: '!' :: rest =>
        (readBlockComment? 0 rest).map fun (inside, rest) => (true, inside, rest)
    | '/' :: '*' :: '*' :: rest =>
        (readBlockComment? 0 rest).map fun (inside, rest) => (false, inside, rest)
    | _ => none
  if hasLoneReturn inside then none else some (documentation isInner inside, rest)

/-! ### Single tokens -/

def marks : List Char :=
  ['~', '!', '@', '#', '$', '%', '^', '&', '*', '-', '=', '+', '|', ';', ':', ',', '<', '.', '>',
    '/', '?', '\'']

/-- A slash that opens a comment is no mark. -/
def startsMark : List Char → Bool
  | '/' :: '/' :: _ => false
  | '/' :: '*' :: _ => false
  | c :: _ => marks.contains c
  | [] => false

/-- These names have no raw spelling. -/
def neverRaw : List String :=
  ["_", "super", "self", "Self", "crate"]

def wordBefore (text rest : List Char) : String :=
  String.ofList (text.take (text.length - rest.length))

def readWord? (text : List Char) : Option (Token × List Char) :=
  match text with
  | 'r' :: '#' :: name => do
      let rest ← dropName? name
      if neverRaw.contains (wordBefore name rest) then none
      else some (.word (wordBefore text rest), rest)
  | _ => (dropName? text).map fun rest => (.word (wordBefore text rest), rest)

/-- The quote of a lifetime needs a name after it, and no quote after the name. -/
def readMark? (text : List Char) : Option (Token × List Char) :=
  if !startsMark text then none
  else
    match text with
    | '\'' :: rest => do
        let (_, after) ← readWord? rest
        if after.head? = some '\'' then none
        else if after.head? = some '#' && !(['r', '#'].isPrefixOf rest) then none
        else some (.mark '\'' true, rest)
    | c :: rest => some (.mark c (startsMark rest), rest)
    | [] => none

/-- The starts of literals, which are no words. -/
def literalStarts : List String :=
  ["r\"", "r#\"", "r##", "b\"", "b'", "br\"", "br#", "c\"", "cr\"", "cr#"]

def readLeaf? (text : List Char) : Option (Token × List Char) :=
  match dropLiteral? text with
  | some rest => some (.literal (wordBefore text rest), rest)
  | none =>
      match readMark? text with
      | some leaf => some leaf
      | none =>
          if literalStarts.any fun start => start.toList.isPrefixOf text then none
          else readWord? text

/-! ### Token lists -/

def bracketOf? (c : Char) : Option Bracket :=
  [Bracket.round, .square, .curly].find? fun bracket => bracket.opening == c

def isClosing (c : Char) : Bool :=
  [Bracket.round, .square, .curly].any fun bracket => bracket.closing == c

/-- The tokens up to a closing bracket or the end of the text. -/
def readTokens? : Nat → List Char → Option (List Token × List Char)
  | 0, _ => none
  | steps + 1, text =>
      let text := skipBlanks (text.length + 1) text
      match readDocumentation? text with
      | some (comment, rest) =>
          (readTokens? steps rest).map fun (tokens, rest) => (comment ++ tokens, rest)
      | none =>
          match text with
          | [] => some ([], [])
          | c :: rest =>
              if isClosing c then some ([], c :: rest)
              else
                match bracketOf? c with
                | some bracket => do
                    let (inner, rest) ← readTokens? steps rest
                    let rest ← Text.dropFront? [bracket.closing] rest
                    let (tokens, rest) ← readTokens? steps rest
                    some (.group bracket inner :: tokens, rest)
                | none => do
                    let (token, rest) ← readLeaf? text
                    let (tokens, rest) ← readTokens? steps rest
                    some (token :: tokens, rest)

/-- The tokens of a whole text. -/
def Token.ofText? (text : String) : Option (List Token) := do
  let characters :=
    match text.toList with
    | '\ufeff' :: rest => rest
    | characters => characters
  let (tokens, rest) ← readTokens? (characters.length + 1) characters
  if rest.isEmpty then some tokens else none

end FieldRules.Source
