import FieldRules.Pattern.CharSet

/-!
This file holds regular expressions with assertions and decides whether one matches somewhere in a
text. A set of positions of the text is a number whose binary digits mark the members, so one
arithmetic operation moves all positions at once.
-/

namespace FieldRules.Pattern

/-- An assertion looks at the characters on both sides of a position. -/
inductive Assertion where
  | textStart
  | textEnd
  | lineStart
  | lineEnd
  | lineStartAny
  | lineEndAny
  | wordBoundary
  | notWordBoundary
  | wordStart
  | wordEnd
  | wordStartHalf
  | wordEndHalf
  | asciiWordBoundary
  | asciiNotWordBoundary
  | asciiWordStart
  | asciiWordEnd
  | asciiWordStartHalf
  | asciiWordEndHalf
  deriving Repr, DecidableEq

def Assertion.holds (assertion : Assertion) (before after : Option Char) : Bool :=
  let word (c : Option Char) : Bool := c.any isWordChar
  let asciiWord (c : Option Char) : Bool := c.any CharSet.asciiWord.contains
  match assertion with
  | .textStart => before.isNone
  | .textEnd => after.isNone
  | .lineStart => before.isNone || before == some '\n'
  | .lineEnd => after.isNone || after == some '\n'
  | .lineStartAny =>
      before.isNone || before == some '\n' || (before == some '\r' && after != some '\n')
  | .lineEndAny =>
      after.isNone || after == some '\r' || (after == some '\n' && before != some '\r')
  | .wordBoundary => word before != word after
  | .notWordBoundary => word before == word after
  | .wordStart => !word before && word after
  | .wordEnd => word before && !word after
  | .wordStartHalf => !word before
  | .wordEndHalf => !word after
  | .asciiWordBoundary => asciiWord before != asciiWord after
  | .asciiNotWordBoundary => asciiWord before == asciiWord after
  | .asciiWordStart => !asciiWord before && asciiWord after
  | .asciiWordEnd => asciiWord before && !asciiWord after
  | .asciiWordStartHalf => !asciiWord before
  | .asciiWordEndHalf => !asciiWord after

/-- A regular expression; a repetition without a greatest count has no end. -/
inductive Regex where
  | empty
  | one (set : CharSet)
  | look (assertion : Assertion)
  | seq (first second : Regex)
  | alt (left right : Regex)
  | repeated (inner : Regex) (least : Nat) (most : Option Nat)
  deriving Repr, DecidableEq

/-- The characters before and after each position of a text, from its start on. -/
def positions : Option Char → List Char → List (Option Char × Option Char)
  | before, [] => [(before, none)]
  | before, c :: rest => (before, some c) :: positions (some c) rest

/-- The number whose binary digits, from the lowest on, are the given marks. -/
def maskOf : List Bool → Nat
  | [] => 0
  | mark :: marks => 2 * maskOf marks + (if mark then 1 else 0)

/-- A regular expression whose tests are replaced by the positions of one text that pass them. -/
inductive Located where
  | stay
  | step (mask : Nat)
  | hold (mask : Nat)
  | seq (first second : Located)
  | alt (left right : Located)
  | repeated (inner : Located) (least : Nat) (most : Option Nat)

def Regex.locate (text : List Char) : Regex → Located
  | .empty => .stay
  | .one set => .step (maskOf (text.map set.contains))
  | .look assertion =>
      .hold (maskOf ((positions none text).map fun (before, after) =>
        assertion.holds before after))
  | .seq first second => .seq (first.locate text) (second.locate text)
  | .alt left right => .alt (left.locate text) (right.locate text)
  | .repeated inner least most => .repeated (inner.locate text) least most

/-- This function moves a fixed number of times while positions are left. -/
def moveTimes (move : Nat → Nat) : Nat → Nat → Nat
  | 0, starts => starts
  | count + 1, starts => if starts = 0 then 0 else moveTimes move count (move starts)

/-- This function collects the positions that at most so many moves reach. -/
def moveUpTo (move : Nat → Nat) : Nat → Nat → Nat → Nat
  | 0, reached, _ => reached
  | count + 1, reached, frontier =>
      if frontier = 0 then reached
      else
        let next := move frontier
        let fresh := next - (next &&& reached)
        moveUpTo move count (reached ||| fresh) fresh

/-- The positions at which a match from one of the starts may end. -/
def Located.ends (size : Nat) : Located → Nat → Nat
  | .stay, starts => starts
  | .step mask, starts => (starts &&& mask) <<< 1
  | .hold mask, starts => starts &&& mask
  | .seq first second, starts => second.ends size (first.ends size starts)
  | .alt left right, starts => left.ends size starts ||| right.ends size starts
  | .repeated inner least most, starts =>
      let begun := moveTimes (inner.ends size) least starts
      let further := match most with
        | none => size + 1
        | some most => min (most - least) (size + 1)
      moveUpTo (inner.ends size) further begun begun

/-- A search tries every position of the text as the start of a match. -/
def Regex.matchesIn (regex : Regex) (text : List Char) : Bool :=
  (regex.locate text).ends text.length (Nat.pow 2 (text.length + 1) - 1) != 0

end FieldRules.Pattern
