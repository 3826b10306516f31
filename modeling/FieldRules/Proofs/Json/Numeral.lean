import FieldRules.Json.Reader
import FieldRules.Proofs.Text.Numeral
import Mathlib.Algebra.Ring.Int.Defs
import Mathlib.Data.List.TakeWhile

/-!
This file says which JSON numbers are held as integers. A number is held as the integer that its
text spells, if it is one and 64 bits hold it with or without a sign; all other numbers have no
integer value.
-/

namespace FieldRules.Json

open Text (Spells)

/-- A numeral is an integer if 64 bits hold it, and a float otherwise. -/
structure Holds (numeral : List Char) (data : Data) : Prop where
  integer : ∀ value, data = .integer value ↔
    Spells numeral value ∧ -2 ^ 63 ≤ value ∧ value < 2 ^ 64 ∧
      ¬(value = 0 ∧ numeral.head? = some '-')
  other : (∀ value, data ≠ .integer value) → data = .float ∨ data = .unreadable

/-! ### Parts of numbers -/

section

variable {text digits rest : List Char}

theorem readDigits?_spec (read : readDigits? text = some (digits, rest)) :
    text = digits ++ rest ∧ digits ≠ [] ∧ ∀ c ∈ digits, c.isDigit = true := by
  simp only [readDigits?] at read
  split at read
  · cases read
  · next filled =>
      cases read
      refine ⟨List.takeWhile_append_dropWhile.symm, by simpa using filled, fun c member => ?_⟩
      rw [← Text.isDigit_eq]
      exact List.mem_takeWhile_imp member

theorem readWhole?_spec (read : readWhole? text = some (digits, rest)) :
    text = digits ++ rest ∧ digits ≠ [] ∧ ∀ c ∈ digits, c.isDigit = true := by
  unfold readWhole? at read
  split at read
  · cases read
    exact ⟨rfl, by simp, by simp⟩
  · exact readDigits?_spec read

/-- A part that is there has a mark that no integer has. -/
def Marked (present : Prop) (part : List Char) : Prop :=
  (¬present ∧ part = []) ∨ (present ∧ ∃ mark ∈ part, mark ∈ ['.', 'e', 'E'])

theorem readFraction?_spec (read : readFraction? text = some (digits, rest)) :
    ∃ part, text = part ++ rest ∧ Marked (digits ≠ []) part := by
  unfold readFraction? at read
  split at read
  · obtain ⟨rfl, filled, -⟩ := readDigits?_spec read
    exact ⟨'.' :: digits, rfl, .inr ⟨filled, '.', by simp⟩⟩
  · cases read
    exact ⟨[], rfl, .inl ⟨not_not.2 rfl, rfl⟩⟩

theorem splitSign_suffix (text : List Char) :
    ∃ sign, text = sign ++ (Number.Binary64.splitSign text).2 := by
  unfold Number.Binary64.splitSign
  split
  · exact ⟨['-'], rfl⟩
  · exact ⟨['+'], rfl⟩
  · exact ⟨[], rfl⟩

theorem readExponent?_spec {exponent : Option Int}
    (read : readExponent? text = some (exponent, rest)) :
    ∃ part, text = part ++ rest ∧ Marked (exponent ≠ none) part := by
  unfold readExponent? at read
  split at read
  · next c after =>
      split at read
      · next mark =>
          obtain ⟨sign, split⟩ := splitSign_suffix after
          simp only [Option.bind_eq_bind, Option.bind_eq_some_iff, Option.some.injEq] at read
          obtain ⟨⟨digits, left⟩, found, same⟩ := read
          cases same
          obtain ⟨ofDigits, -, -⟩ := readDigits?_spec found
          refine ⟨c :: (sign ++ digits), ?_, .inr ⟨by simp, c, by simp, by simpa using .inr mark⟩⟩
          rw [split, ofDigits]
          simp
      · cases read
        exact ⟨[], rfl, .inl ⟨not_not.2 rfl, rfl⟩⟩
  · cases read
    exact ⟨[], rfl, .inl ⟨not_not.2 rfl, rfl⟩⟩

end

/-! ### Numbers -/

section

variable {negative : Bool} {whole fraction : List Char} {exponent : Option Int} {value : Int}

/-- The sign of a number and its digits. -/
def signed (negative : Bool) (whole : List Char) : List Char :=
  if negative then '-' :: whole else whole

/-- The value of a number without fraction. -/
def magnitude (negative : Bool) (whole : List Char) : Int :=
  if negative then -(Text.ofDigits whole : Int) else Text.ofDigits whole

/-- The integer of the number has a text, and 64 bits hold it. -/
def Fits (negative : Bool) (whole fraction : List Char) (exponent : Option Int) : Prop :=
  fraction = [] ∧ exponent = none ∧ -2 ^ 63 ≤ magnitude negative whole ∧
    magnitude negative whole < 2 ^ 64 ∧ (negative = false ∨ Text.ofDigits whole ≠ 0)

theorem numberOf_of_fits (fits : Fits negative whole fraction exponent) :
    numberOf negative whole fraction exponent = .integer (magnitude negative whole) := by
  obtain ⟨rfl, rfl, low, high, notZero⟩ := fits
  have inside : (Text.IntegerRange.eitherSign 64).contains (magnitude negative whole) = true :=
    Text.IntegerRange.contains_iff.2 ⟨low, Int.le_sub_one_of_lt high⟩
  rw [magnitude] at inside
  simp only [numberOf, List.append_nil, inside]
  rw [if_pos (by simpa using notZero), magnitude]

theorem numberOf_of_not_fits (unfit : ¬Fits negative whole fraction exponent) :
    numberOf negative whole fraction exponent = .float ∨
      numberOf negative whole fraction exponent = .unreadable := by
  rw [numberOf, if_neg]
  · split
    · exact .inr rfl
    · exact .inl rfl
  · intro held
    simp only [Bool.and_eq_true, List.isEmpty_iff, Option.isNone_iff_eq_none,
      Text.IntegerRange.contains_iff] at held
    obtain ⟨⟨⟨rfl, rfl⟩, low, high⟩, notZero⟩ := held
    rw [List.append_nil] at low high notZero
    exact unfit ⟨rfl, rfl, low, Int.lt_of_le_sub_one high, by simpa using notZero⟩

theorem spells_signed (filled : whole ≠ []) (decimal : ∀ c ∈ whole, c.isDigit = true) :
    Spells (signed negative whole) (magnitude negative whole) := by
  rw [signed, magnitude, Text.ofDigits_eq_ofDigitChars]
  cases negative with
  | true => exact .minus whole filled decimal
  | false => exact .unsigned whole filled decimal

/-- A minus in front of a row of digits is the sign of the number. -/
theorem negative_of_head (decimal : ∀ c ∈ whole, c.isDigit = true)
    (minus : (signed negative whole).head? = some '-') : negative = true := by
  cases negative with
  | true => rfl
  | false => exact absurd (decimal '-' (List.mem_of_mem_head? minus)) (by decide)

/-- An integer numeral has none of the marks of a fraction or an exponent. -/
theorem unmarked_of_spells {text : List Char} (spelled : Spells text value) :
    ∀ mark ∈ text, mark ∉ ['.', 'e', 'E'] := by
  have digit (c : Char) (decimal : c.isDigit = true) : c ∉ ['.', 'e', 'E'] := by
    intro member
    simp only [List.mem_cons, List.not_mem_nil, or_false] at member
    rcases member with rfl | rfl | rfl <;> simp at decimal
  cases spelled with
  | unsigned _ _ decimal => exact fun mark member => digit mark (decimal mark member)
  | plus digits _ decimal | minus digits _ decimal =>
      intro mark member
      rcases List.mem_cons.1 member with rfl | member
      · decide
      · exact digit mark (decimal mark member)

/-- A mark keeps a number from being an integer numeral. -/
theorem parts_of_spells {fractionText exponentText : List Char}
    (ofFraction : Marked (fraction ≠ []) fractionText)
    (ofExponent : Marked (exponent ≠ none) exponentText)
    (spelled : Spells (signed negative whole ++ fractionText ++ exponentText) value) :
    fraction = [] ∧ exponent = none ∧ fractionText = [] ∧ exponentText = [] := by
  have unmarked := unmarked_of_spells spelled
  rcases ofFraction with ⟨fraction, rfl⟩ | ⟨-, mark, member, marks⟩
  · rcases ofExponent with ⟨exponent, rfl⟩ | ⟨-, mark, member, marks⟩
    · exact ⟨not_not.1 fraction, not_not.1 exponent, rfl, rfl⟩
    · exact absurd marks (unmarked mark (by simp [member]))
  · exact absurd marks (unmarked mark (by simp [member]))

/-- A number is held as its text says. -/
theorem holds_numberOf (filled : whole ≠ []) (decimal : ∀ c ∈ whole, c.isDigit = true)
    {fractionText exponentText : List Char} (ofFraction : Marked (fraction ≠ []) fractionText)
    (ofExponent : Marked (exponent ≠ none) exponentText) :
    Holds (signed negative whole ++ fractionText ++ exponentText)
      (numberOf negative whole fraction exponent) := by
  have own : Spells (signed negative whole) (magnitude negative whole) :=
    spells_signed filled decimal
  by_cases fits : Fits negative whole fraction exponent
  · rw [numberOf_of_fits fits]
    obtain ⟨rfl, rfl, low, high, notZero⟩ := fits
    obtain ⟨-, rfl⟩ := ofFraction.resolve_right (by simp)
    obtain ⟨-, rfl⟩ := ofExponent.resolve_right (by simp)
    rw [List.append_nil, List.append_nil]
    refine ⟨fun value => ?_, fun other => absurd rfl (other _)⟩
    rw [Data.integer.injEq]
    constructor
    · rintro rfl
      refine ⟨own, low, high, fun ⟨zero, minus⟩ => ?_⟩
      rw [negative_of_head decimal minus] at notZero zero
      simp [magnitude] at notZero zero
      exact notZero zero
    · exact fun held => own.unique held.1
  · have unfit := numberOf_of_not_fits fits
    refine ⟨fun value => ?_, fun _ => unfit⟩
    constructor
    · intro held
      simp [held] at unfit
    · rintro ⟨spelled, low, high, notZero⟩
      obtain ⟨rfl, rfl, rfl, rfl⟩ := parts_of_spells ofFraction ofExponent spelled
      rw [List.append_nil, List.append_nil] at spelled notZero
      cases own.unique spelled
      refine absurd ⟨rfl, rfl, low, high, ?_⟩ fits
      by_contra zero
      simp only [not_or, Bool.not_eq_false, not_not] at zero
      simp [zero, signed, magnitude] at notZero

end

/-- The sign stands in front of the digits. -/
theorem readNumber?_signed (text : List Char) :
    ∃ negative unsigned, text = signed negative unsigned ∧
      readNumber? text = (do
        let (whole, text) ← readWhole? unsigned
        let (fraction, text) ← readFraction? text
        let (exponent, text) ← readExponent? text
        some (numberOf negative whole fraction exponent, text)) := by
  unfold readNumber?
  split
  next negative unsigned split =>
    refine ⟨negative, unsigned, ?_, rfl⟩
    split at split <;> cases split <;> rfl

/-- A number that is read is held as its text says. -/
theorem readNumber?_spec {text rest : List Char} {data : Data}
    (read : readNumber? text = some (data, rest)) :
    ∃ numeral, text = numeral ++ rest ∧ Holds numeral data := by
  obtain ⟨negative, unsigned, rfl, parts⟩ := readNumber?_signed text
  rw [parts] at read
  simp only [Option.bind_eq_bind, Option.bind_eq_some_iff, Option.some.injEq] at read
  obtain ⟨⟨whole, afterWhole⟩, ofWhole, ⟨fraction, afterFraction⟩, ofFraction,
    ⟨exponent, afterExponent⟩, ofExponent, same⟩ := read
  cases same
  obtain ⟨rfl, filled, decimal⟩ := readWhole?_spec ofWhole
  obtain ⟨fractionText, rfl, fractionMarked⟩ := readFraction?_spec ofFraction
  obtain ⟨exponentText, rfl, exponentMarked⟩ := readExponent?_spec ofExponent
  refine ⟨_, ?_, holds_numberOf filled decimal fractionMarked exponentMarked⟩
  cases negative <;> simp [signed]

end FieldRules.Json
