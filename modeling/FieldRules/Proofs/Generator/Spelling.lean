import FieldRules.Generator.Identifier
import FieldRules.Proofs.Source.Literal

/-!
This file reads back the spellings of numbers and names in source text. What the generator writes
for each of them is read as the same number or name.
-/

namespace FieldRules

namespace Text

/-! ### Numerals -/

theorem isDigit_of_mem_toDigits {value : Nat} {c : Char} (member : c ∈ Nat.toDigits 10 value) :
    isDigit c = true := by
  rw [isDigit_eq]
  exact Nat.isDigit_of_mem_toDigits (by decide) (by decide) member

theorem toDigits_eq_cons (value : Nat) :
    ∃ first others, Nat.toDigits 10 value = first :: others ∧ isDigit first = true := by
  obtain ⟨first, others, spelled⟩ := List.exists_cons_of_ne_nil (Nat.toDigits_ne_nil (n := value))
  exact ⟨first, others, spelled, isDigit_of_mem_toDigits (spelled ▸ List.mem_cons_self)⟩

theorem toList_ofNat (value : Nat) : (toString (Int.ofNat value)).toList = Nat.toDigits 10 value :=
  Nat.toList_repr

theorem toList_negSucc (value : Nat) :
    (toString (Int.negSucc value)).toList = '-' :: Nat.toDigits 10 (value + 1) := by
  show ("-" ++ Nat.repr (value + 1)).toList = _
  rw [String.toList_append, Nat.toList_repr]
  rfl

/-- A number reads back from its digits. -/
theorem natural?_toDigits (value : Nat) : natural? (Nat.toDigits 10 value) = some value := by
  have digits : (Nat.toDigits 10 value).all isDigit = true :=
    List.all_eq_true.2 fun c member => isDigit_of_mem_toDigits member
  rw [natural?, digits, ofDigits_eq_ofDigitChars, Nat.ofDigitChars_ten_toDigits]
  simp [Nat.toDigits_ne_nil]

end Text

namespace Emitted

open Text

/-! ### Words -/

/-- A front that is all of one kind ends where another kind of character follows. -/
theorem span_append {holds : Char → Bool} {front rest : List Char}
    (all : ∀ c ∈ front, holds c = true) (stops : rest.head?.any holds = false) :
    (front ++ rest).takeWhile holds = front ∧ (front ++ rest).dropWhile holds = rest := by
  rw [List.takeWhile_append_of_pos all, List.dropWhile_append_of_pos all]
  cases rest with
  | nil => simp
  | cons c rest =>
      have other : holds c = false := by simpa using stops
      simp [other]

/-- A decimal number may have a minus sign. -/
def readNumber? (text : List Char) : Option (Int × List Char) :=
  match text with
  | '-' :: digits =>
      (natural? (digits.takeWhile isDigit)).map fun value =>
        (-(value : Int), digits.dropWhile isDigit)
  | digits =>
      (natural? (digits.takeWhile isDigit)).map fun value =>
        ((value : Int), digits.dropWhile isDigit)

theorem readNumber?_toString (value : Int) {rest : List Char}
    (stops : rest.head?.any isDigit = false) :
    readNumber? ((toString value).toList ++ rest) = some (value, rest) := by
  have digits (value : Nat) :
      (Nat.toDigits 10 value ++ rest).takeWhile isDigit = Nat.toDigits 10 value ∧
        (Nat.toDigits 10 value ++ rest).dropWhile isDigit = rest :=
    span_append (fun c => isDigit_of_mem_toDigits) stops
  cases value with
  | ofNat value =>
      rw [toList_ofNat, readNumber?, (digits value).1, (digits value).2, natural?_toDigits]
      · rfl
      · intro tail signed
        obtain ⟨first, others, spelled, digit⟩ := toDigits_eq_cons value
        rw [spelled, List.cons_append, List.cons_eq_cons] at signed
        rw [signed.1] at digit
        cases digit
  | negSucc value =>
      rw [toList_negSucc, List.cons_append, readNumber?, (digits _).1, (digits _).2,
        natural?_toDigits]
      rfl

/-- The letters, numbers and low lines of a name. -/
def isNamePart (c : Char) : Bool :=
  c == '_' || Unicode.isAlphanumeric c

/-- A name reads without the mark of its raw spelling. -/
def readName? (text : List Char) : Option (String × List Char) :=
  let text := (dropFront? ['r', '#'] text).getD text
  let name := text.takeWhile isNamePart
  if name.isEmpty then none else some (String.ofList name, text.dropWhile isNamePart)

theorem isNamePart_of_isAlphabetic {c : Char} (letter : Unicode.isAlphabetic c = true) :
    isNamePart c = true := by
  rw [isNamePart, Unicode.isAlphanumeric]
  split
  · next ascii =>
      rw [Unicode.isAlphabetic, if_pos ascii] at letter
      simp [isAsciiAlphanumeric, letter]
  · simp [letter]

/-- A spelled name is not empty, and its characters are parts of names. -/
theorem isNamePart_of_spelling {name spelling : String}
    (spelled : Identifier.spelling? name = some spelling) :
    name.toList ≠ [] ∧ ∀ c ∈ name.toList, isNamePart c = true := by
  rw [Identifier.spelling?] at spelled
  split at spelled
  · cases spelled
  · next valid =>
      have form : Identifier.hasNameForm name.toList = true := by
        simp only [Bool.or_eq_true, Bool.not_eq_true', not_or, Bool.not_eq_false] at valid
        exact valid.1
      cases chars : name.toList with
      | nil => simp [chars, Identifier.hasNameForm] at form
      | cons first others =>
          rw [chars, Identifier.hasNameForm, Bool.and_eq_true, List.all_eq_true] at form
          refine ⟨List.cons_ne_nil _ _, fun c member => ?_⟩
          rcases List.mem_cons.1 member with rfl | member
          · rcases Bool.or_eq_true_iff.1 form.1 with low | letter
            · simp [isNamePart, low]
            · exact isNamePart_of_isAlphabetic letter
          · exact form.2 c member

/-- A name that is spelled as it stands does not begin with the raw mark. -/
theorem dropFront?_raw_eq_none {name rest : List Char}
    (parts : ∀ c ∈ name, isNamePart c = true) (written : name ≠ [])
    (apart : rest.head? ≠ some '#') : dropFront? ['r', '#'] (name ++ rest) = none := by
  have noMark (c : Char) (part : isNamePart c = true) : '#' ≠ c := by
    rintro rfl
    cases part
  match name, written with
  | [first], _ =>
      cases rest with
      | nil => simp [dropFront?]
      | cons c rest =>
          have other : '#' ≠ c := by
            rintro rfl
            exact apart rfl
          simp [dropFront?, other]
  | first :: second :: others, _ =>
      simp [dropFront?, noMark second (parts second (by simp))]

/-- A name reads back from its spelling. -/
theorem readName?_spelling {name spelling : String} {rest : List Char}
    (spelled : Identifier.spelling? name = some spelling)
    (stops : rest.head?.any isNamePart = false) (apart : rest.head? ≠ some '#') :
    readName? (spelling.toList ++ rest) = some (name, rest) := by
  have ⟨written, parts⟩ := isNamePart_of_spelling spelled
  have ⟨front, back⟩ := span_append parts stops
  have unraw : (dropFront? ['r', '#'] (spelling.toList ++ rest)).getD (spelling.toList ++ rest) =
      name.toList ++ rest := by
    rw [Identifier.spelling?] at spelled
    split at spelled
    · cases spelled
    split at spelled
    · cases spelled
      simp [dropFront?]
    · cases spelled
      rw [dropFront?_raw_eq_none parts written apart, Option.getD_none]
  rw [readName?, unraw, front, back]
  simp [written]

end Emitted

end FieldRules
