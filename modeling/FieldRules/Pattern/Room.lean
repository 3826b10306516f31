import FieldRules.Pattern.Regex

/-!
This file tells the room that a compiled pattern takes. A pattern is compiled for both directions of
reading, into states that each read one byte.
-/

namespace FieldRules.Pattern

/-! ### Byte sequences -/

/-- The bytes from the first to the second. -/
abbrev ByteRange := Nat × Nat

/-- The byte sequences of a range of numbers, by the lead byte and its offset. -/
def sequencesFrom : Nat → Nat → Nat → Nat → List (List ByteRange)
  | 0, offset, first, last => [[(offset + first, offset + last)]]
  | further + 1, offset, first, last =>
      let size := Nat.pow 64 (further + 1)
      let under (lead low high : Nat) : List (List ByteRange) :=
        (sequencesFrom further 0x80 low high).map ((offset + lead, offset + lead) :: ·)
      let (lead, low) := (first / size, first % size)
      let (final, high) := (last / size, last % size)
      if lead = final then under lead low high
      else
        -- Only whole blocks between the first lead byte and the last one share their further bytes.
        let begins := if low = 0 then lead else lead + 1
        let ends := if high = size - 1 then final + 1 else final
        (if low = 0 then [] else under lead low (size - 1)) ++
          (if begins < ends then
            [(offset + begins, offset + ends - 1) :: List.replicate (further + 1) (0x80, 0xbf)]
          else []) ++
          if high = size - 1 then [] else under final 0 high

/-- The code points of a zone have as many further bytes and one offset of the lead byte. -/
structure Zone where
  first : Nat
  last : Nat
  further : Nat
  offset : Nat

def zones : List Zone :=
  [⟨0, 0x7f, 0, 0⟩, ⟨0x80, 0x7ff, 1, 0xc0⟩, ⟨0x800, 0xffff, 2, 0xe0⟩, ⟨0x10000, 0x10ffff, 3, 0xf0⟩]

def Zone.sequences (zone : Zone) (range : Nat × Nat) : List (List ByteRange) :=
  let first := max range.1 zone.first
  let last := min range.2 zone.last
  if first ≤ last then sequencesFrom zone.further zone.offset first last else []

def sequencesOf (ranges : List (Nat × Nat)) : List (List ByteRange) :=
  ranges.flatMap fun range => zones.flatMap fun zone => zone.sequences range

/-- The number of bytes that are not shared with the sequence before. -/
def freshBytes : List ByteRange → List (List ByteRange) → Nat
  | _, [] => 0
  | previous, sequence :: sequences =>
      let shared := ((previous.zip sequence).takeWhile fun (old, new) => old == new).length
      sequence.length - shared + freshBytes sequence sequences

/-- Sequences with the same front stand together, by what follows the front. -/
def byFront : List (List ByteRange) → List (ByteRange × List (List ByteRange))
  | [] => []
  | [] :: sequences => byFront sequences
  | (front :: rest) :: sequences =>
      match byFront sequences with
      | [] => [(front, [rest])]
      | (next, rests) :: groups =>
          if next = front then (front, rest :: rests) :: groups
          else (front, [rest]) :: (next, rests) :: groups

/-- The given branching points and those below, each as the sequences that follow it. -/
def branchings : Nat → List (List (List ByteRange)) → List (List (List ByteRange))
  | 0, points => points
  | depth + 1, points =>
      let below := points.flatMap fun sequences => (byFront sequences).map Prod.snd
      points ++ branchings depth (below.filter (· != [[]])).eraseDups

/-! ### Room -/

/-- A state takes 32 bytes, a link to a state 4 bytes, and a range with a link twice as many. -/
def statesRoom (states links : Nat) : Nat :=
  32 * states + 4 * links

inductive Direction where
  | forward
  | backward
  deriving Repr, DecidableEq

/-- Forward, equal branching points are one state; backward, equal fronts of sequences are. -/
def branchingRoom (sequences : List (List ByteRange)) : Direction → Nat
  | .forward =>
      let points := (branchings 3 [sequences]).eraseDups
      statesRoom (points.length + 1) (2 * (points.flatMap byFront).length)
  | .backward => statesRoom (2 + freshBytes [] sequences) sequences.length

/-- The room that one character of the set takes. -/
def CharSet.room (set : CharSet) (direction : Direction) : Nat :=
  let ranges := set.ranges
  let sequences := sequencesOf ranges
  if ranges.isEmpty then statesRoom 1 0
  else if set.isSingle then statesRoom sequences.flatten.length 0
  else if ranges.all (fun range => range.2 < 0x80) then statesRoom 2 (2 * ranges.length)
  else branchingRoom sequences direction

namespace Regex

/-- A sequence leaves the expression out. -/
def isNothing : Regex → Bool
  | .empty => true
  | .seq first second => first.isNothing && second.isNothing
  | .repeated _ _ most => most == some 0
  | _ => false

/-- The expression matches no text but the empty one. -/
def isVoid : Regex → Bool
  | .empty => true
  | .one _ => false
  | .look _ => true
  | .seq first second => first.isVoid && second.isVoid
  | .alt left right => left.isVoid && right.isVoid
  | .repeated inner _ most => inner.isVoid || most == some 0

/-- The expression may match the empty text. -/
def isNullable : Regex → Bool
  | .empty => true
  | .one _ => false
  | .look _ => true
  | .seq first second => first.isNullable && second.isNullable
  | .alt left right => left.isNullable || right.isNullable
  | .repeated inner least _ => inner.isNullable || least == 0

def isAlt : Regex → Bool
  | .alt _ _ => true
  | _ => false

/-- A void expression is repeated at most once, and others are copied for each repetition. -/
def repetitionRoom (inner : Nat) (void nullable : Bool) (least : Nat) (most : Option Nat) : Nat :=
  let least := if void then min least 1 else least
  let most := if void then some (min (most.getD 1) 1) else most
  match most with
  | none =>
      if least = 0 then inner + if nullable then statesRoom 3 4 else statesRoom 1 2
      else least * inner + statesRoom 1 2
  | some most =>
      if most = 0 then statesRoom 1 0
      else if least = most then most * inner
      else if least = 0 ∧ most = 1 then inner + statesRoom 2 2
      else
        (if least = 0 then statesRoom 1 0 else least * inner) + statesRoom 1 0 +
          (most - least) * (inner + statesRoom 1 2)

def room (direction : Direction) : Regex → Nat
  | .empty => statesRoom 1 0
  | .one set => set.room direction
  | .look _ => statesRoom 1 0
  | .seq first second =>
      if first.isNothing then second.room direction
      else if second.isNothing then first.room direction
      else first.room direction + second.room direction
  | .alt left right =>
      -- All alternatives of a chain share two states, and each of them has a link.
      let branch (room : Nat) (isAlt : Bool) :=
        if isAlt then room - statesRoom 2 0 else room + statesRoom 0 1
      branch (left.room direction) left.isAlt + branch (right.room direction) right.isAlt +
        statesRoom 2 0
  | .repeated inner least most =>
      repetitionRoom (inner.room direction) inner.isVoid inner.isNullable least most

/-- A pattern has at most this room in each direction. -/
def roomLimit : Nat := 10 * 1024 * 1024

/-- A pattern has four states for its ends, and forward two states for the text of each group. -/
def fits (regex : Regex) (captures : Nat) : Bool :=
  regex.room .forward + statesRoom (2 * (captures + 1)) 0 + statesRoom 4 4 ≤ roomLimit &&
    regex.room .backward + statesRoom 4 4 ≤ roomLimit

end Regex

end FieldRules.Pattern
