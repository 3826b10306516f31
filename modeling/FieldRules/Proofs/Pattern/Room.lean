import FieldRules.Pattern.Room
import Mathlib.Tactic.Common

/-!
This file shows that the room of a set of characters follows from its members. A combination of two
sets has the combined members, and sets with the same members have the same edges.
-/

namespace FieldRules

namespace Unicode

namespace Edges

section

variable {op : Bool → Bool → Bool} {least point : Nat} {edges others : List Nat}

/-- The state stays as it is below all edges. -/
theorem isInside_of_lt (rises : Rises least edges) (below : point < least) (inside : Bool) :
    isInside inside edges point = inside := by
  cases edges with
  | nil => rfl
  | cons edge edges =>
      rw [isInside, if_pos (Nat.lt_of_lt_of_le below rises.1)]

theorem isInside_emit {edge : Nat} (rises : Rises (edge + 1) edges) (before after : Bool) :
    isInside before (emit edge before after edges) point =
      if point < edge then before else isInside after edges point := by
  rw [emit]
  split
  · next same =>
      subst same
      split
      · next below => exact isInside_of_lt rises (Nat.lt_succ_of_lt below) before
      · rfl
  · next changes =>
      have turned : (!before) = after := by
        revert changes
        cases before <;> cases after <;> decide
      rw [isInside, turned]

/-- A side that the combination reads turns its state around with its own. -/
theorem isInside_read {left : Bool} (read : op left true ≠ op left false) (right : Bool) :
    isInside (op left right) others point = op left (isInside right others point) := by
  induction others generalizing right with
  | nil => rfl
  | cons other others inductionHypothesis =>
      have turned : (!op left right) = op left (!right) := by
        cases right with
        | false => exact (Bool.eq_not.2 read).symm
        | true => exact (Bool.eq_not.2 read.symm).symm
      rw [isInside, isInside, turned, inductionHypothesis]
      split <;> rfl

theorem isInside_passUntil {edge : Nat} {left : Bool} {next : Bool → List Nat → List Nat}
    (rises : ∀ right others, Rises (edge + 1) others → Rises (edge + 1) (next right others))
    (rest : ∀ right others, Rises (edge + 1) others →
      isInside (op (!left) right) (next right others) point =
        op (isInside (!left) edges point) (isInside right others point))
    (right : Bool) (later : Rises least others) :
    isInside (op left right) (passUntil op edge left next right others) point =
      op (isInside left (edge :: edges) point) (isInside right others point) := by
  induction others generalizing least right with
  | nil =>
      rw [passUntil, isInside_emit (rises right [] trivial), rest right [] trivial]
      simp only [isInside]
      split <;> rfl
  | cons other others inductionHypothesis =>
      rw [passUntil]
      split
      · next before =>
          have above : Rises (other + 1) (passUntil op edge left next (!right) others) :=
            rises_passUntil op rises before (!right) later.2
          rw [isInside_emit above, inductionHypothesis (!right) later.2]
          by_cases below : point < other
          · simp only [isInside, if_pos below, if_pos (Nat.lt_trans below before)]
          · simp only [isInside, if_neg below]
      · next notBefore =>
          split
          · next same =>
              subst same
              rw [isInside_emit (rises _ _ later.2), rest _ _ later.2]
              simp only [isInside]
              split <;> rfl
          · next different =>
              have after : Rises (edge + 1) (other :: others) := ⟨by omega, later.2⟩
              rw [isInside_emit (rises _ _ after), rest _ _ after]
              by_cases below : point < edge
              · have also : point < other := by omega
                simp only [isInside, if_pos below, if_pos also]
              · simp only [isInside, if_neg below]

/-- The combined state is the combination of the states. -/
theorem isInside_combinePoints (left right : Bool) (first : Rises least edges)
    (second : Rises least others) :
    isInside (op left right) (combinePoints op left edges right others) point =
      op (isInside left edges point) (isInside right others point) := by
  induction edges generalizing least left right others with
  | nil =>
      rw [combinePoints]
      split
      · next unread =>
          have constant (other : Bool) : op left right = op left other := by
            revert unread
            cases right <;> cases other <;> simp +contextual
          exact constant _
      · next read => exact isInside_read read right
  | cons edge edges inductionHypothesis =>
      refine isInside_passUntil (fun right others after => ?_) (fun right others after => ?_) right
        second
      · exact rises_combinePoints op (!left) right first.2 after
      · exact inductionHypothesis (!left) right first.2 after

end

variable (left right : Edges) (point : Nat)

theorem contains_combine {op : Bool → Bool → Bool} (outside : op false false = false) :
    (combine op left right).contains point = op (left.contains point) (right.contains point) := by
  have combined : isInside (op false false)
      (combinePoints op false left.points false right.points) point = _ :=
    isInside_combinePoints false false left.rises right.rises
  rwa [outside] at combined

theorem contains_union :
    (left.union right).contains point = (left.contains point || right.contains point) :=
  contains_combine left right point rfl

theorem contains_intersection :
    (left.intersection right).contains point = (left.contains point && right.contains point) :=
  contains_combine left right point rfl

theorem contains_difference :
    (left.difference right).contains point = (left.contains point && !right.contains point) :=
  contains_combine left right point rfl

theorem contains_symmetricDifference :
    (left.symmetricDifference right).contains point =
      (left.contains point != right.contains point) :=
  contains_combine left right point rfl

theorem contains_range_iff {first last : Nat} :
    (range first last).contains point = true ↔ first ≤ point ∧ point ≤ last := by
  rw [range]
  split
  · change isInside false [first, last + 1] point = true ↔ _
    rw [isInside, isInside]
    split
    · exact iff_of_false (by decide) (by omega)
    · split
      · exact iff_of_true rfl (by omega)
      · exact iff_of_false Bool.false_ne_true (by omega)
  · exact iff_of_false Bool.false_ne_true (by omega)

theorem contains_characters : characters.contains point = true ↔ point.isValidChar := by
  simp [characters, contains, isInside, Nat.isValidChar]
  omega

variable {left right}

/-- Edges with the same states are the same. -/
theorem edges_eq_of_isInside {least : Nat} {edges others : List Nat} {inside : Bool}
    (first : Rises least edges) (second : Rises least others)
    (same : ∀ point, isInside inside edges point = isInside inside others point) :
    edges = others := by
  -- The state changes at a first edge, so both lists have it.
  have changes {edge : Nat} {edges : List Nat} {inside : Bool} (rises : Rises (edge + 1) edges) :
      isInside inside (edge :: edges) edge = !inside := by
    rw [isInside, if_neg (Nat.lt_irrefl _), isInside_of_lt rises (Nat.lt_succ_self _)]
  have stays (inside : Bool) : (!inside) ≠ inside := by cases inside <;> decide
  induction edges generalizing least others inside with
  | nil =>
      cases others with
      | nil => rfl
      | cons other others => exact absurd ((changes second.2).symm.trans (same other).symm) (stays _)
  | cons edge edges inductionHypothesis =>
      cases others with
      | nil => exact absurd ((changes first.2).symm.trans (same edge)) (stays _)
      | cons other others =>
          have equal : edge = other := by
            rcases Nat.lt_trichotomy edge other with less | equal | greater
            · have early := same edge
              rw [changes first.2, isInside, if_pos less] at early
              exact absurd early (stays _)
            · exact equal
            · have early := same other
              rw [changes second.2, isInside, if_pos greater] at early
              exact absurd early.symm (stays _)
          subst equal
          refine congrArg _ (@inductionHypothesis _ _ (!inside) first.2 second.2 fun point => ?_)
          by_cases below : point < edge + 1
          · rw [isInside_of_lt first.2 below, isInside_of_lt second.2 below]
          · have known := same point
            rwa [isInside, isInside, if_neg (by omega), if_neg (by omega)] at known

theorem eq_of_contains (same : ∀ point, left.contains point = right.contains point) :
    left = right := by
  obtain ⟨edges, first⟩ := left
  obtain ⟨others, second⟩ := right
  cases edges_eq_of_isInside first second same
  rfl

end Edges

end Unicode

namespace Pattern.CharSet

open Unicode

/-- The set is made of ranges by the set operations. -/
def isWritten : CharSet → Bool
  | .range _ _ => true
  | .empty => true
  | .complement inner => inner.isWritten
  | .union left right => left.isWritten && right.isWritten
  | .intersection left right => left.isWritten && right.isWritten
  | .difference left right => left.isWritten && right.isWritten
  | .symmetricDifference left right => left.isWritten && right.isWritten
  | _ => false

variable {left right set : CharSet}

theorem contains_edges (written : set.isWritten = true) (c : Char) :
    set.edges.contains c.toNat = set.contains c := by
  induction set with
  | range first last =>
      rw [edges, contains, Bool.eq_iff_iff, Edges.contains_range_iff, Bool.and_eq_true,
        decide_eq_true_eq, decide_eq_true_eq]
      rfl
  | empty => rfl
  | complement inner inductionHypothesis =>
      have valid := (Edges.contains_characters c.toNat).2 c.valid
      rw [edges, Edges.contains_difference, valid, inductionHypothesis written, contains,
        Bool.true_and]
  | union left right ofLeft ofRight =>
      have parts := Bool.and_eq_true_iff.1 written
      rw [edges, Edges.contains_union, ofLeft parts.1, ofRight parts.2, contains]
  | intersection left right ofLeft ofRight =>
      have parts := Bool.and_eq_true_iff.1 written
      rw [edges, Edges.contains_intersection, ofLeft parts.1, ofRight parts.2, contains]
  | difference left right ofLeft ofRight =>
      have parts := Bool.and_eq_true_iff.1 written
      rw [edges, Edges.contains_difference, ofLeft parts.1, ofRight parts.2, contains]
  | symmetricDifference left right ofLeft ofRight =>
      have parts := Bool.and_eq_true_iff.1 written
      rw [edges, Edges.contains_symmetricDifference, ofLeft parts.1, ofRight parts.2, contains]
  | points | category | property | folded | foldedAscii => cases written

/-- Sets with the same characters have the same ranges, however they are written. -/
theorem ranges_eq_of_contains (first : left.isWritten = true) (second : right.isWritten = true)
    (same : ∀ c, left.contains c = right.contains c) : left.ranges = right.ranges := by
  refine congrArg Edges.ranges (Edges.eq_of_contains fun point => ?_)
  rw [Edges.contains_intersection, Edges.contains_intersection]
  cases valid : Edges.characters.contains point with
  | false => rfl
  | true =>
      have spelled : (Char.ofNat point).toNat = point := by
        rw [Char.ofNat, dif_pos ((Edges.contains_characters point).1 valid)]
        rfl
      rw [← spelled, contains_edges first, contains_edges second, same]

/-- Sets with the same characters take the same room, however they are written. -/
theorem room_eq_of_contains (first : left.isWritten = true) (second : right.isWritten = true)
    (same : ∀ c, left.contains c = right.contains c) : left.room = right.room := by
  funext direction
  rw [room, room, isSingle, isSingle, ranges_eq_of_contains first second same]

/-- A letter takes the room of one state, also where it is written twice. -/
example : (unionOf [.single 'a', .single 'a']).room .backward = statesRoom 1 0 := by
  decide +kernel

end Pattern.CharSet

end FieldRules
