import FieldRules.Unicode.CodePointSet

/-!
This file holds sets of code points by their edges, the points at which a set begins and ends in
turn. A set has only one list of edges, so the edges tell how many ranges it has.
-/

namespace FieldRules.Unicode

/-- The points increase, and none is less than the given one. -/
def Rises : Nat → List Nat → Prop
  | _, [] => True
  | least, point :: points => least ≤ point ∧ Rises (point + 1) points

theorem Rises.mono {least lower : Nat} {points : List Nat} (rises : Rises least points)
    (less : lower ≤ least) : Rises lower points := by
  cases points with
  | nil => trivial
  | cons point points => exact ⟨Nat.le_trans less rises.1, rises.2⟩

/-- A set begins at its first edge, ends at the second one, and so on. -/
structure Edges where
  points : List Nat
  rises : Rises 0 points

namespace Edges

/-- Each edge up to the point turns the state around. -/
def isInside : Bool → List Nat → Nat → Bool
  | inside, [], _ => inside
  | inside, edge :: edges, point => if point < edge then inside else isInside (!inside) edges point

def contains (set : Edges) (point : Nat) : Bool :=
  isInside false set.points point

/-! ### Combinations -/

/-- A point is an edge if the state changes there. -/
def emit (point : Nat) (before after : Bool) (edges : List Nat) : List Nat :=
  if before = after then edges else point :: edges

theorem rises_emit {least point : Nat} {before after : Bool} {edges : List Nat}
    (first : least ≤ point) (rises : Rises (point + 1) edges) :
    Rises least (emit point before after edges) := by
  rw [emit]
  split
  · exact rises.mono (Nat.le_succ_of_le first)
  · exact ⟨first, rises⟩

section

variable (op : Bool → Bool → Bool)

/-- This function passes the right edges up to the next left one. -/
def passUntil (edge : Nat) (left : Bool) (next : Bool → List Nat → List Nat) :
    Bool → List Nat → List Nat
  | right, [] => emit edge (op left right) (op (!left) right) (next right [])
  | right, other :: others =>
      if other < edge then
        emit other (op left right) (op left (!right)) (passUntil edge left next (!right) others)
      else if other = edge then
        emit edge (op left right) (op (!left) (!right)) (next (!right) others)
      else emit edge (op left right) (op (!left) right) (next right (other :: others))

/-- The edges of a combination are those at which the two states together change it. -/
def combinePoints : Bool → List Nat → Bool → List Nat → List Nat
  | left, [], _, others => if op left true = op left false then [] else others
  | left, edge :: edges, right, others =>
      passUntil op edge left (combinePoints (!left) edges) right others

theorem rises_passUntil {edge : Nat} {left : Bool} {next : Bool → List Nat → List Nat}
    (rest : ∀ right others, Rises (edge + 1) others → Rises (edge + 1) (next right others))
    {least : Nat} (first : least ≤ edge) (right : Bool) {others : List Nat}
    (rises : Rises least others) : Rises least (passUntil op edge left next right others) := by
  induction others generalizing least right with
  | nil => exact rises_emit first (rest right [] trivial)
  | cons other others inductionHypothesis =>
      rw [passUntil]
      split
      · next before => exact rises_emit rises.1 (inductionHypothesis before (!right) rises.2)
      · next notBefore =>
          split
          · next same =>
              subst same
              exact rises_emit first (rest _ _ rises.2)
          · next other =>
              refine rises_emit first (rest _ _ ⟨?_, rises.2⟩)
              omega

theorem rises_combinePoints {least : Nat} {edges others : List Nat} (left right : Bool)
    (first : Rises least edges) (second : Rises least others) :
    Rises least (combinePoints op left edges right others) := by
  induction edges generalizing least left right others with
  | nil =>
      rw [combinePoints]
      split
      · trivial
      · exact second
  | cons edge edges inductionHypothesis =>
      refine rises_passUntil op (fun right others after => ?_) first.1 right second
      exact inductionHypothesis (!left) right first.2 after

def combine (left right : Edges) : Edges where
  points := combinePoints op false left.points false right.points
  rises := rises_combinePoints op false false left.rises right.rises

end

def union (left right : Edges) : Edges :=
  combine (· || ·) left right

def intersection (left right : Edges) : Edges :=
  combine (· && ·) left right

def difference (left right : Edges) : Edges :=
  combine (fun left right => left && !right) left right

def symmetricDifference (left right : Edges) : Edges :=
  combine (· != ·) left right

/-! ### Sets -/

def empty : Edges :=
  ⟨[], trivial⟩

def range (first last : Nat) : Edges :=
  if ordered : first ≤ last then ⟨[first, last + 1], by simp [Rises]; omega⟩ else empty

/-- The code points of characters leave out those of surrogates. -/
def characters : Edges :=
  ⟨[0, 0xd800, 0xe000, 0x110000], by simp [Rises]⟩

def unionOf (sets : List Edges) : Edges :=
  sets.foldr union empty

def ofPoints (points : List Nat) : Edges :=
  unionOf (points.map fun point => range point point)

def ofRun (run : Run) : Edges :=
  if run.step = 1 then range run.first run.last else ofPoints run.points

def ofSet (set : CodePointSet) : Edges :=
  unionOf (set.runs.toList.map ofRun)

/-- The tables that make up a set and those that are taken out of it. -/
def ofTables (tables : List CodePointSet × List CodePointSet) : Edges :=
  (unionOf (tables.1.map ofSet)).difference (unionOf (tables.2.map ofSet))

/-- A set grows by the second points of the pairs whose first points it has. -/
def withPartners (set : Edges) (pairs : List (Nat × Nat)) : Edges :=
  set.union (ofPoints ((pairs.filter fun pair => set.contains pair.1).map Prod.snd))

/-- The range that begins at each other edge ends before the next one. -/
def rangesOf : List Nat → List (Nat × Nat)
  | first :: next :: points => (first, next - 1) :: rangesOf points
  | _ => []

def ranges (set : Edges) : List (Nat × Nat) :=
  rangesOf set.points

end Edges

end FieldRules.Unicode
