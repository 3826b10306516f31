import FieldRules.Text.Ascii
import FieldRules.Unicode.CaseFolding
import FieldRules.Unicode.Edges
import FieldRules.Unicode.Property

/-!
This file holds the character sets of patterns, closed under the set operations and under the
folding of case.
-/

namespace FieldRules.Pattern

open Unicode

/-- A set of characters, said as an expression over ranges and Unicode properties. -/
inductive CharSet where
  | range (first last : Char)
  | points (set : CodePointSet)
  | category (group : GeneralCategory)
  | property (kind : Property)
  | empty
  | complement (inner : CharSet)
  | union (left right : CharSet)
  | intersection (left right : CharSet)
  | difference (left right : CharSet)
  | symmetricDifference (left right : CharSet)
  /-- The characters that differ from a member in case only. -/
  | folded (inner : CharSet)
  /-- The characters that differ from a member in the case of an ASCII letter only. -/
  | foldedAscii (inner : CharSet)
  deriving Repr, DecidableEq

namespace CharSet

def asciiVariants (c : Char) : List Char :=
  if Text.isAsciiLower c then [c, Char.ofNat (c.toNat - 32)]
  else if Text.isAsciiUpper c then [c, Char.ofNat (c.toNat + 32)]
  else [c]

def contains : CharSet → Char → Bool
  | .range first last, c => first ≤ c && c ≤ last
  | .points set, c => set.contains c
  | .category group, c => group.contains c
  | .property kind, c => kind.contains c
  | .empty, _ => false
  | .complement inner, c => !inner.contains c
  | .union left right, c => left.contains c || right.contains c
  | .intersection left right, c => left.contains c && right.contains c
  | .difference left right, c => left.contains c && !right.contains c
  | .symmetricDifference left right, c => left.contains c != right.contains c
  | .folded inner, c => (caseVariants c).any inner.contains
  | .foldedAscii inner, c => (asciiVariants c).any inner.contains

/-- The two forms of each ASCII letter. -/
def asciiPairs : List (Nat × Nat) :=
  (List.range 26).map fun index => (65 + index, 97 + index)

def foldingPairs : List (Nat × Nat) :=
  simpleFolding.pairs

/-- This function adds the points that share a folded form with a member. -/
def foldEdges (pairs : List (Nat × Nat)) (set : Edges) : Edges :=
  (set.withPartners pairs).withPartners (pairs.map Prod.swap)

def edges : CharSet → Edges
  | .range first last => .range first.toNat last.toNat
  | .points set => .ofSet set
  | .category group => .ofSet group.members
  | .property kind => .ofTables kind.tables
  | .empty => .empty
  | .complement inner => Edges.characters.difference inner.edges
  | .union left right => left.edges.union right.edges
  | .intersection left right => left.edges.intersection right.edges
  | .difference left right => left.edges.difference right.edges
  | .symmetricDifference left right => left.edges.symmetricDifference right.edges
  | .folded inner => foldEdges foldingPairs inner.edges
  | .foldedAscii inner => foldEdges asciiPairs inner.edges

/-- The ranges of characters that make up the set, however the set is written. -/
def ranges (set : CharSet) : List (Nat × Nat) :=
  (Edges.characters.intersection set.edges).ranges

def isSingle (set : CharSet) : Bool :=
  match set.ranges with
  | [(first, last)] => first == last
  | _ => false

def single (c : Char) : CharSet :=
  .range c c

def ofRanges (ranges : List (Char × Char)) : CharSet :=
  ranges.foldr (fun (first, last) set => .union (.range first last) set) .empty

def ofCategories (categories : List GeneralCategory) : CharSet :=
  categories.foldr (fun category set => .union (.category category) set) .empty

def unionOf (sets : List CharSet) : CharSet :=
  sets.foldr .union .empty

def all : CharSet :=
  .complement .empty

def asciiDigits : CharSet :=
  .range '0' '9'

def asciiSpaces : CharSet :=
  ofRanges [('\t', '\r'), (' ', ' ')]

def asciiWord : CharSet :=
  ofRanges [('0', '9'), ('A', 'Z'), ('_', '_'), ('a', 'z')]

def digits : CharSet :=
  .category .decimalNumber

def spaces : CharSet :=
  .property .whiteSpace

/-- Letters, marks, digits, connectors and the two join controls make up words. -/
def word : CharSet :=
  .union asciiWord (.union (.property .alphabetic)
    (ofCategories [.nonspacingMark, .spacingMark, .enclosingMark, .decimalNumber,
      .connectorPunctuation] |>.union (.range '\u200c' '\u200d')))

end CharSet

def isWordChar (c : Char) : Bool :=
  if Text.isAscii c then CharSet.asciiWord.contains c else CharSet.word.contains c

end FieldRules.Pattern
