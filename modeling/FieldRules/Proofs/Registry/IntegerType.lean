import FieldRules.Proofs.Text.Numeral
import FieldRules.Registry.Builtin
import Mathlib.Algebra.Ring.Int.Defs

/-!
This file says which bounds the type of an integer field admits. A type is known by the last segment
of its name, and a field whose type is none of the twelve integer types admits each bound.
-/

namespace FieldRules

/-! ### Segments -/

def HoldsColons (path : List Char) : Prop :=
  [':', ':'] <:+: path

/-- The last segment of a path stands behind its last double colon. -/
def IsLastSegment (path segment : List Char) : Prop :=
  (segment = path ∧ ¬HoldsColons path) ∨
    ∃ before, path = before ++ ':' :: ':' :: segment ∧ ¬HoldsColons (':' :: segment)

theorem holdsColons_cons_iff {c : Char} {rest : List Char} :
    HoldsColons (c :: rest) ↔ (c = ':' ∧ ∃ segment, rest = ':' :: segment) ∨ HoldsColons rest := by
  rw [HoldsColons, List.infix_cons_iff, HoldsColons]
  cases rest with
  | nil => simp
  | cons second rest => simp [eq_comm]

theorem afterLastColons?_eq_none {path : List Char} (plain : ¬HoldsColons path) :
    afterLastColons? path = none := by
  induction path with
  | nil => rfl
  | cons c rest inductionHypothesis =>
      rw [holdsColons_cons_iff, not_or] at plain
      unfold afterLastColons?
      rw [inductionHypothesis plain.2]
      dsimp only
      split
      · next segment => exact absurd ⟨rfl, segment, rfl⟩ plain.1
      · rfl

theorem afterLastColons?_append (before : List Char) {segment : List Char}
    (plain : ¬HoldsColons (':' :: segment)) :
    afterLastColons? (before ++ ':' :: ':' :: segment) = some segment := by
  induction before with
  | nil => rw [List.nil_append, afterLastColons?, afterLastColons?_eq_none plain]
  | cons c before inductionHypothesis =>
      rw [List.cons_append]
      unfold afterLastColons?
      rw [inductionHypothesis]

/-- Each path has a last segment. -/
theorem exists_isLastSegment (path : List Char) : ∃ segment, IsLastSegment path segment := by
  induction path with
  | nil => exact ⟨[], .inl ⟨rfl, by simp [HoldsColons]⟩⟩
  | cons c rest inductionHypothesis =>
      obtain ⟨segment, ⟨rfl, plain⟩ | ⟨before, rfl, plain⟩⟩ := inductionHypothesis
      · by_cases holds : HoldsColons (c :: segment)
        · obtain ⟨rfl, further, rfl⟩ := (holdsColons_cons_iff.1 holds).resolve_right plain
          exact ⟨further, .inr ⟨[], rfl, plain⟩⟩
        · exact ⟨_, .inl ⟨rfl, holds⟩⟩
      · exact ⟨segment, .inr ⟨c :: before, rfl, plain⟩⟩

theorem lastSegment_of_isLastSegment {path segment : List Char}
    (last : IsLastSegment path segment) : lastSegment path = segment := by
  rcases last with ⟨rfl, plain⟩ | ⟨before, rfl, plain⟩
  · rw [lastSegment, afterLastColons?_eq_none plain, Option.getD_none]
  · rw [lastSegment, afterLastColons?_append before plain, Option.getD_some]

theorem lastSegment_eq_iff {path segment : List Char} :
    lastSegment path = segment ↔ IsLastSegment path segment := by
  constructor
  · rintro rfl
    obtain ⟨segment, last⟩ := exists_isLastSegment path
    rw [lastSegment_of_isLastSegment last]
    exact last
  · exact lastSegment_of_isLastSegment

/-! ### Ranges -/

/-- The values of the twelve integer types; a machine address has 64 bits. -/
def integerTypes : List (String × Text.IntegerRange) :=
  [("i8", ⟨-2 ^ 7, 2 ^ 7 - 1⟩), ("i16", ⟨-2 ^ 15, 2 ^ 15 - 1⟩), ("i32", ⟨-2 ^ 31, 2 ^ 31 - 1⟩),
    ("i64", ⟨-2 ^ 63, 2 ^ 63 - 1⟩), ("i128", ⟨-2 ^ 127, 2 ^ 127 - 1⟩),
    ("isize", ⟨-2 ^ 63, 2 ^ 63 - 1⟩), ("u8", ⟨0, 2 ^ 8 - 1⟩), ("u16", ⟨0, 2 ^ 16 - 1⟩),
    ("u32", ⟨0, 2 ^ 32 - 1⟩), ("u64", ⟨0, 2 ^ 64 - 1⟩), ("u128", ⟨0, 2 ^ 128 - 1⟩),
    ("usize", ⟨0, 2 ^ 64 - 1⟩)]

/-- The bound is a value of each integer type that the field names. -/
def Field.Admits (field : Field) (bound : Int) : Prop :=
  ∀ type ∈ integerTypes, IsLastSegment field.typeName.toList type.1.toList →
    type.2.low ≤ bound ∧ bound ≤ type.2.high

/-- A text spells a bound if it spells an integer of 64 bits. -/
def SpellsBound (text : String) (bound : Int) : Prop :=
  Text.Spells text.toList bound ∧ -2 ^ 63 ≤ bound ∧ bound < 2 ^ 63

theorem integerIn?_word_iff {text : String} {bound : Int} :
    Text.integerIn? (.signed 64) text.toList = some bound ↔ SpellsBound text bound := by
  have low : (Text.IntegerRange.signed 64).low = -2 ^ 63 := rfl
  have high : (Text.IntegerRange.signed 64).high = 2 ^ 63 - 1 := rfl
  rw [Text.integerIn?_eq_some_iff, SpellsBound, low, high, Int.le_sub_one_iff]

theorem range_contains_iff {field : Field} {bound : Int} (low : -2 ^ 63 ≤ bound)
    (high : bound < 2 ^ 63) :
    (∀ range, integerRange? field.typeName = some range → range.contains bound = true) ↔
      field.Admits bound := by
  have segment (name : String) : IsLastSegment field.typeName.toList name.toList ↔
      String.ofList (lastSegment field.typeName.toList) = name := by
    rw [← lastSegment_eq_iff, ← String.ofList_inj, String.ofList_toList]
  simp only [Field.Admits, segment, integerRange?, Text.IntegerRange.contains_iff]
  generalize String.ofList (lastSegment field.typeName.toList) = name
  by_cases known : name ∈ integerTypes.map Prod.fst
  · simp only [integerTypes, List.map_cons, List.map_nil, List.mem_cons, List.not_mem_nil,
      or_false] at known
    rcases known with rfl | rfl | rfl | rfl | rfl | rfl | rfl | rfl | rfl | rfl | rfl | rfl
    all_goals
      simp [integerTypes, Text.IntegerRange.signed, Text.IntegerRange.unsigned]
    all_goals omega
  · simp only [integerTypes, List.map_cons, List.map_nil, List.mem_cons, List.not_mem_nil,
      or_false, not_or] at known
    simp [integerTypes, known]

end FieldRules
