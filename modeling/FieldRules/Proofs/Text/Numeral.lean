import FieldRules.Text.Hexadecimal
import FieldRules.Text.Numeral
import Mathlib.Data.Nat.Notation

/-!
This file says which texts spell an integer. A numeral is a row of digits after at most one sign,
and the reader of numerals accepts exactly these texts, with the value that their digits have.
-/

namespace FieldRules.Text

/-- A row of digits spells its value, with the sign in front of it. -/
inductive Spells : List Char → Int → Prop
  | unsigned (digits : List Char) (filled : digits ≠ [])
      (decimal : ∀ c ∈ digits, c.isDigit = true) :
      Spells digits (Nat.ofDigitChars 10 digits 0)
  | plus (digits : List Char) (filled : digits ≠ []) (decimal : ∀ c ∈ digits, c.isDigit = true) :
      Spells ('+' :: digits) (Nat.ofDigitChars 10 digits 0)
  | minus (digits : List Char) (filled : digits ≠ []) (decimal : ∀ c ∈ digits, c.isDigit = true) :
      Spells ('-' :: digits) (-(Nat.ofDigitChars 10 digits 0 : Int))

theorem hexDigit?_lowerHexDigit : ∀ digit < 16, hexDigit? (lowerHexDigit digit) = some digit := by
  decide

theorem ofDigits_eq_ofDigitChars (digits : List Char) :
    ofDigits digits = Nat.ofDigitChars 10 digits 0 := by
  simp only [ofDigits, Nat.ofDigitChars_eq_foldl, digitValue, Nat.mul_comm]

theorem isDigit_eq (c : Char) : isDigit c = c.isDigit := by
  simp [isDigit, Char.isDigit, Char.le_def]

theorem natural?_eq_some_iff {digits : List Char} {value : Nat} :
    natural? digits = some value ↔ digits ≠ [] ∧ (∀ c ∈ digits, c.isDigit = true) ∧
      Nat.ofDigitChars 10 digits 0 = value := by
  rw [natural?, ofDigits_eq_ofDigitChars]
  by_cases filled : digits = []
  · simp [filled]
  · by_cases decimal : digits.all isDigit = true
    · have each : ∀ c ∈ digits, c.isDigit = true := by simpa [isDigit_eq] using decimal
      simp only [List.isEmpty_eq_false_iff.2 filled, decimal, Bool.not_true, Bool.or_self,
        Bool.false_eq_true, if_false, Option.some.injEq]
      exact ⟨fun same => ⟨filled, each, same⟩, fun parts => parts.2.2⟩
    · have other : ¬∀ c ∈ digits, c.isDigit = true := by simpa [isDigit_eq] using decimal
      simp [decimal, other]

/-! ### Signs -/

theorem map_natural?_eq_some_iff {sign : Nat → Int} {digits : List Char} {value : Int} :
    (natural? digits).map sign = some value ↔ digits ≠ [] ∧ (∀ c ∈ digits, c.isDigit = true) ∧
      sign (Nat.ofDigitChars 10 digits 0) = value := by
  simp only [Option.map_eq_some_iff, natural?_eq_some_iff]
  constructor
  · rintro ⟨_, ⟨filled, decimal, rfl⟩, same⟩
    exact ⟨filled, decimal, same⟩
  · rintro ⟨filled, decimal, same⟩
    exact ⟨_, ⟨filled, decimal, rfl⟩, same⟩

theorem integer?_minus (digits : List Char) :
    integer? ('-' :: digits) = (natural? digits).map fun value : Nat => -(value : Int) := by
  rw [integer?]
  cases natural? digits <;> rfl

theorem integer?_plus (digits : List Char) :
    integer? ('+' :: digits) = (natural? digits).map fun value : Nat => (value : Int) := by
  rw [integer?]
  cases natural? digits <;> rfl

theorem integer?_unsigned {digits : List Char} (notMinus : digits.head? ≠ some '-')
    (notPlus : digits.head? ≠ some '+') :
    integer? digits = (natural? digits).map fun value : Nat => (value : Int) := by
  unfold integer?
  split
  · simp at notMinus
  · simp at notPlus
  · cases natural? digits <;> rfl

/-- The reader of numerals reads what is spelled. -/
theorem integer?_eq_some_iff {text : List Char} {value : Int} :
    integer? text = some value ↔ Spells text value := by
  constructor
  · intro read
    by_cases minus : text.head? = some '-'
    · obtain ⟨digits, rfl⟩ := List.head?_eq_some_iff.1 minus
      rw [integer?_minus] at read
      obtain ⟨filled, decimal, rfl⟩ := map_natural?_eq_some_iff.1 read
      exact .minus digits filled decimal
    · by_cases plus : text.head? = some '+'
      · obtain ⟨digits, rfl⟩ := List.head?_eq_some_iff.1 plus
        rw [integer?_plus] at read
        obtain ⟨filled, decimal, rfl⟩ := map_natural?_eq_some_iff.1 read
        exact .plus digits filled decimal
      · rw [integer?_unsigned minus plus] at read
        obtain ⟨filled, decimal, rfl⟩ := map_natural?_eq_some_iff.1 read
        exact .unsigned text filled decimal
  · intro spelled
    cases spelled with
    | unsigned _ filled decimal =>
        -- The first character is a digit, so it is taken for no sign.
        have digit (c : Char) (head : text.head? = some c) : c.isDigit = true :=
          decimal c (List.mem_of_mem_head? head)
        have notMinus : text.head? ≠ some '-' := fun head => absurd (digit _ head) (by decide)
        have notPlus : text.head? ≠ some '+' := fun head => absurd (digit _ head) (by decide)
        rw [integer?_unsigned notMinus notPlus]
        exact map_natural?_eq_some_iff.2 ⟨filled, decimal, rfl⟩
    | plus digits filled decimal =>
        rw [integer?_plus]
        exact map_natural?_eq_some_iff.2 ⟨filled, decimal, rfl⟩
    | minus digits filled decimal =>
        rw [integer?_minus]
        exact map_natural?_eq_some_iff.2 ⟨filled, decimal, rfl⟩

theorem Spells.unique {text : List Char} {value other : Int} (first : Spells text value)
    (second : Spells text other) : value = other := by
  have read := integer?_eq_some_iff.2 first
  rw [integer?_eq_some_iff.2 second] at read
  exact (Option.some.inj read).symm

theorem IntegerRange.contains_iff {range : IntegerRange} {value : Int} :
    range.contains value = true ↔ range.low ≤ value ∧ value ≤ range.high := by
  simp [contains]

theorem integerIn?_eq_some_iff {range : IntegerRange} {text : List Char} {value : Int} :
    integerIn? range text = some value ↔
      Spells text value ∧ range.low ≤ value ∧ value ≤ range.high := by
  rw [integerIn?, Option.filter_eq_some_iff, integer?_eq_some_iff, IntegerRange.contains_iff]

end FieldRules.Text
