/-!
This file holds the tokens of Rust source and prints them on one line.
-/

namespace FieldRules.Source

inductive Bracket where
  | round
  | square
  | curly
  deriving Repr, DecidableEq

def Bracket.opening : Bracket → Char
  | .round => '('
  | .square => '['
  | .curly => '\x7b'

def Bracket.closing : Bracket → Char
  | .round => ')'
  | .square => ']'
  | .curly => '\x7d'

/-- A mark is joint if it makes one operator with the mark after it. -/
inductive Token where
  | word (text : String)
  | literal (text : String)
  | mark (c : Char) (isJoint : Bool)
  | group (bracket : Bracket) (inner : List Token)
  deriving Repr

namespace Token

/-- A mark that stands for itself. -/
def single (c : Char) : Token :=
  .mark c false

/-- The marks of one operator. -/
def operator : List Char → List Token
  | [] => []
  | [c] => [.single c]
  | c :: rest => .mark c true :: operator rest

def isMark (c : Char) : Token → Bool
  | .mark d _ => c == d
  | _ => false

/-- The quote of a lifetime is joint to its name. -/
def lifetime (name : String) : List Token :=
  [.mark '\'' true, .word name]

mutual

def text : Token → String
  | .word text => text
  | .literal text => text
  | .mark c _ => c.toString
  | .group .round inner => "(" ++ textOf inner ++ ")"
  | .group .square inner => "[" ++ textOf inner ++ "]"
  | .group .curly [] => "\x7b \x7d"
  | .group .curly inner => "\x7b " ++ textOf inner ++ " \x7d"

/-- One space stands between tokens, and none after a joint mark. -/
def textOf : List Token → String
  | [] => ""
  | [token] => token.text
  | .mark c true :: tokens => c.toString ++ textOf tokens
  | token :: tokens => token.text ++ " " ++ textOf tokens

end

mutual

/-- The number of tokens at all depths. -/
def count : Token → Nat
  | .group _ inner => countAll inner + 1
  | _ => 1

def countAll : List Token → Nat
  | [] => 0
  | token :: tokens => token.count + countAll tokens

end

/-- The operators of more than one mark. -/
def operators : List (List Char) :=
  ["<<=", ">>=", "...", "..=", "::", "->", "=>", "==", "!=", "<=", ">=", "&&", "||", "+=", "-=",
    "*=", "/=", "%=", "^=", "&=", "|=", "<<", ">>", ".."].map String.toList

/-- The joint marks at the front, up to the first one that is not joint. -/
def run : List Token → List Char
  | .mark c true :: tokens => c :: run tokens
  | .mark c false :: _ => [c]
  | _ => []

mutual

/-- An expression whose operators are apart from each other. -/
def spaced : Token → Token
  | .group bracket inner => .group bracket (spacedAll 0 inner)
  | token => token

/-- The first marks belong to one operator that has begun before them. -/
def spacedAll (inside : Nat) : List Token → List Token
  | [] => []
  | .mark c isJoint :: tokens =>
      match inside with
      | 1 => .single c :: spacedAll 0 tokens
      | more + 2 => .mark c isJoint :: spacedAll (more + 1) tokens
      | 0 =>
          match operators.find? fun operator => operator.isPrefixOf (run (.mark c isJoint :: tokens)) with
          | some operator => .mark c isJoint :: spacedAll (operator.length - 1) tokens
          | none => .mark c (c == '\'') :: spacedAll 0 tokens
  | token :: tokens => token.spaced :: spacedAll 0 tokens

end

/-- The text without any spaces. -/
def compactTextOf (tokens : List Token) : String :=
  String.ofList ((textOf tokens).toList.filter (· != ' '))

end Token

end FieldRules.Source
