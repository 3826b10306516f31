import FieldRules.Text.Ascii
import FieldRules.Text.Pieces

/-!
This file holds sets of code points and maps between code points as sorted runs, and reads them
from the compact text in which the tables of this folder are written.
-/

namespace FieldRules.Unicode

/-- A run holds the code points `first`, `first + step`, and so on up to `last`. -/
structure Run where
  first : Nat
  last : Nat
  step : Nat
  deriving Repr, DecidableEq

def Run.contains (run : Run) (point : Nat) : Bool :=
  run.first ≤ point && point ≤ run.last && (point - run.first) % run.step == 0

def Run.points (run : Run) : List Nat :=
  (List.range ((run.last - run.first) / run.step + 1)).map fun index => run.first + index * run.step

/-- This function looks for the entry whose run reaches across the code point. -/
def searchRun {Entry : Type} (runOf : Entry → Run) (entries : Array Entry) (point : Nat) :
    Nat → Nat → Nat → Option Entry
  | 0, _, _ => none
  | steps + 1, low, high =>
      if low < high then
        let middle := (low + high) / 2
        match entries[middle]? with
        | none => none
        | some entry =>
            if point < (runOf entry).first then searchRun runOf entries point steps low middle
            else if (runOf entry).last < point then
              searchRun runOf entries point steps (middle + 1) high
            else if (runOf entry).contains point then some entry
            else none
      else none

/-- No two runs overlap, and they stand in increasing order. -/
structure CodePointSet where
  runs : Array Run
  deriving Repr, DecidableEq

def CodePointSet.containsPoint (set : CodePointSet) (point : Nat) : Bool :=
  (searchRun id set.runs point set.runs.size 0 set.runs.size).isSome

def CodePointSet.contains (set : CodePointSet) (c : Char) : Bool :=
  set.containsPoint c.toNat

/-- A shift moves the points of its run, or gives one point many targets. -/
structure Shift where
  run : Run
  targets : List Nat

def Shift.image (shift : Shift) (point : Nat) : List Nat :=
  match shift.targets with
  | [target] => [target + (point - shift.run.first)]
  | targets => targets

/-- No two runs of the shifts overlap, and they stand in increasing order. -/
structure CodePointMap where
  shifts : Array Shift

def CodePointMap.image? (map : CodePointMap) (point : Nat) : Option (List Nat) :=
  (searchRun Shift.run map.shifts point map.shifts.size 0 map.shifts.size).map fun shift =>
    shift.image point

/-- Each point of the map stands with each of its targets. -/
def CodePointMap.pairs (map : CodePointMap) : List (Nat × Nat) :=
  map.shifts.toList.flatMap fun shift =>
    shift.run.points.flatMap fun point => (shift.image point).map fun target => (point, target)

/-- The points that a shift sends to the given single target. -/
def Shift.preimage (shift : Shift) (target : Nat) : List Nat :=
  match shift.targets with
  | [first] =>
      if first ≤ target && shift.run.contains (target - first + shift.run.first) then
        [target - first + shift.run.first]
      else []
  | _ => []

def CodePointMap.preimages (map : CodePointMap) (target : Nat) : List Nat :=
  map.shifts.toList.flatMap fun shift => shift.preimage target

/-- This function reads the hexadecimal number at the front of the text. -/
def takeHex : Nat → List Char → Nat × List Char
  | value, [] => (value, [])
  | value, c :: rest =>
      match Text.hexDigit? c with
      | some digit => takeHex (value * 16 + digit) rest
      | none => (value, c :: rest)

/-- A run is written `41`, `41-5a` or `100-12e/2`, with hexadecimal numbers. -/
def takeRun (word : List Char) : Run × List Char :=
  let (first, rest) := takeHex 0 word
  match rest with
  | '-' :: rest =>
      let (last, rest) := takeHex 0 rest
      match rest with
      | '/' :: rest =>
          let (step, rest) := takeHex 0 rest
          (⟨first, last, step⟩, rest)
      | _ => (⟨first, last, 1⟩, rest)
  | _ => (⟨first, first, 1⟩, rest)

/-- The words of a table stand between blanks and line ends. -/
def tableWords (text : String) : List (List Char) :=
  (Text.pieces (fun c => c = ' ' || c = '\n') text.toList).filter fun word => !word.isEmpty

/-- A shift is written as its run, a colon, and its targets parted by commas. -/
def Shift.ofWord (word : List Char) : Shift :=
  let (run, rest) := takeRun word
  ⟨run, (Text.pieces (· = ',') (rest.drop 1)).map fun target => (takeHex 0 target).1⟩

def CodePointSet.ofText (text : String) : CodePointSet :=
  ⟨((tableWords text).map fun word => (takeRun word).1).toArray⟩

def CodePointMap.ofText (text : String) : CodePointMap :=
  ⟨((tableWords text).map Shift.ofWord).toArray⟩

end FieldRules.Unicode
