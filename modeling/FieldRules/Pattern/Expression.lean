/-!
This file holds the written form of patterns: expressions, bracketed sets and flags.
-/

namespace FieldRules.Pattern

inductive Flag where
  | ignoreCase
  | multiLine
  | dotAll
  | swapGreed
  | unicode
  | carriageReturn
  | ignoreBlanks
  deriving Repr, DecidableEq

/-- A flag group turns some flags on and others off. -/
abbrev FlagChange := List (Flag × Bool)

inductive PerlClass where
  | digit
  | space
  | word
  deriving Repr, DecidableEq

inductive AsciiClass where
  | alnum | alpha | ascii | blank | cntrl | digit | graph | lower | print | punct | space | upper
  | word | xdigit
  deriving Repr, DecidableEq

/-- A Unicode class is asked for by one name or by the value of a property. -/
inductive PropertyQuery where
  | named (name : List Char)
  | valued (name value : List Char)
  deriving Repr, DecidableEq

/-- A byte literal is a character written with two hexadecimal digits. -/
structure Literal where
  char : Char
  isByte : Bool
  deriving Repr, DecidableEq

inductive SetOperation where
  | intersection
  | difference
  | symmetricDifference
  deriving Repr, DecidableEq

/-- The parts of a bracketed set. -/
inductive SetItem where
  | empty
  | literal (literal : Literal)
  | range (first last : Literal)
  | ascii (kind : AsciiClass) (negated : Bool)
  | perl (kind : PerlClass) (negated : Bool)
  | property (query : PropertyQuery) (negated : Bool)
  | bracketed (negated : Bool) (inner : SetItem)
  | union (items : List SetItem)
  | operation (kind : SetOperation) (left right : SetItem)

/-- The written assertions, whose meaning hangs on the flags. -/
inductive AssertionMark where
  | caret | dollar | textStart | textEnd | boundary | notBoundary
  | wordStart | wordEnd | wordStartHalf | wordEndHalf
  deriving Repr, DecidableEq

/-- The expressions that have no parts. -/
inductive Atom where
  | literal (literal : Literal)
  | dot
  | assertion (mark : AssertionMark)
  | perl (kind : PerlClass) (negated : Bool)
  | property (query : PropertyQuery) (negated : Bool)
  deriving Repr, DecidableEq

inductive Expression where
  | empty
  | flags (change : FlagChange)
  | atom (atom : Atom)
  | bracketed (negated : Bool) (inner : SetItem)
  | repetition (inner : Expression) (least : Nat) (most : Option Nat)
  | group (captures : Bool) (change : FlagChange) (inner : Expression)
  | alternation (branches : List Expression)
  | concatenation (parts : List Expression)

mutual

/-- The depth of nested brackets, unions and operations. -/
def SetItem.depth : SetItem → Nat
  | .bracketed _ inner => inner.depth + 1
  | .union items => SetItem.depthOfAll items + 1
  | .operation _ left right => max left.depth right.depth + 1
  | _ => 0

def SetItem.depthOfAll : List SetItem → Nat
  | [] => 0
  | item :: items => max item.depth (SetItem.depthOfAll items)

end

mutual

/-- The depth of nested groups, repetitions, alternations, sequences and brackets. -/
def Expression.depth : Expression → Nat
  | .bracketed _ inner => inner.depth + 1
  | .repetition inner _ _ => inner.depth + 1
  | .group _ _ inner => inner.depth + 1
  | .alternation branches => Expression.depthOfAll branches + 1
  | .concatenation parts => Expression.depthOfAll parts + 1
  | _ => 0

def Expression.depthOfAll : List Expression → Nat
  | [] => 0
  | part :: parts => max part.depth (Expression.depthOfAll parts)

end

mutual

/-- The number of groups whose text is kept, each as often as it is repeated. -/
def Expression.captures : Expression → Nat
  | .repetition inner least most => most.getD (max least 1) * inner.captures
  | .group captures _ inner => inner.captures + captures.toNat
  | .alternation branches => Expression.capturesOfAll branches
  | .concatenation parts => Expression.capturesOfAll parts
  | _ => 0

def Expression.capturesOfAll : List Expression → Nat
  | [] => 0
  | part :: parts => part.captures + Expression.capturesOfAll parts

end

def Expression.ofParts : List Expression → Expression
  | [] => .empty
  | [part] => part
  | parts => .concatenation parts

def SetItem.ofItems : List SetItem → SetItem
  | [] => .empty
  | [item] => item
  | items => .union items

end FieldRules.Pattern
