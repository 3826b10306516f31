import FieldRules.Proofs.Text.Numeral
import FieldRules.Source.Literal
import FieldRules.Text.Quoted
import Mathlib.Algebra.Group.Nat.Defs

/-!
This file says which characters a string literal on one line denotes. The text between its quotes is
made of plain characters and of escapes. The reader of literals gives what they denote, and a quoted
text is a literal that denotes the text.
-/

namespace FieldRules.Source

open Text (hexDigit? lowerHex lowerHexDigit quoted quotedChar)

/-- A row of hexadecimal digits spells its value. -/
inductive SpellsHex : List Char → Nat → Prop
  | digit {c : Char} {value : Nat} (known : hexDigit? c = some value) : SpellsHex [c] value
  | more {digits : List Char} {value last : Nat} {c : Char} (before : SpellsHex digits value)
      (known : hexDigit? c = some last) : SpellsHex (digits ++ [c]) (value * 16 + last)

/-- The text between quotes denotes characters, some of them as escapes. -/
inductive Denotes : List Char → List Char → Prop
  | empty : Denotes [] []
  | plain {c : Char} {text value : List Char} (unmarked : c ∉ ['"', '\\', '\n', '\r'])
      (rest : Denotes text value) : Denotes (c :: text) (c :: value)
  | escape {mark c : Char} {text value : List Char} (known : (mark, c) ∈ simpleEscapes)
      (rest : Denotes text value) : Denotes ('\\' :: mark :: text) (c :: value)
  | codePoint {digits : List Char} {c : Char} {text value : List Char}
      (spelled : SpellsHex digits c.toNat) (few : digits.length ≤ 6) (rest : Denotes text value) :
      Denotes ('\\' :: 'u' :: '\x7b' :: digits ++ '\x7d' :: text) (c :: value)

/-! ### Digits -/

theorem SpellsHex.isDigit {digits : List Char} {point : Nat} (spelled : SpellsHex digits point) :
    ∀ c ∈ digits, ∃ value, hexDigit? c = some value := by
  induction spelled with
  | digit known =>
      intro c member
      exact ⟨_, List.mem_singleton.1 member ▸ known⟩
  | more before known inductionHypothesis =>
      intro c member
      rcases List.mem_append.1 member with early | last
      · exact inductionHypothesis c early
      · exact ⟨_, List.mem_singleton.1 last ▸ known⟩

theorem SpellsHex.length_pos {digits : List Char} {point : Nat}
    (spelled : SpellsHex digits point) : 0 < digits.length := by
  cases spelled <;> simp

theorem spellsHex_lowerHex (value : Nat) : SpellsHex (lowerHex value) value := by
  induction value using Text.lowerHex.induct with
  | case1 value small =>
      rw [lowerHex, if_pos small]
      exact .digit (Text.hexDigit?_lowerHexDigit value small)
  | case2 value great inductionHypothesis =>
      have last : hexDigit? (lowerHexDigit (value % 16)) = some (value % 16) :=
        Text.hexDigit?_lowerHexDigit _ (Nat.mod_lt _ (by decide))
      have spelled := inductionHypothesis.more last
      rw [Nat.mul_comm, Nat.div_add_mod] at spelled
      rwa [lowerHex, if_neg great]

/-- A number below a power of sixteen has no more digits than the exponent. -/
theorem length_lowerHex_le (count value : Nat) (bounded : value < 16 ^ (count + 1)) :
    (lowerHex value).length ≤ count + 1 := by
  induction count generalizing value with
  | zero =>
      rw [lowerHex, if_pos (by simpa using bounded)]
      simp
  | succ count inductionHypothesis =>
      rw [lowerHex]
      split
      · simp
      · have shorter := inductionHypothesis (value / 16) (by omega)
        simpa using shorter

/-- The digits of a number are read in front of the further digits. -/
theorem readCodePoint?_digits {digits : List Char} {point : Nat} (spelled : SpellsHex digits point)
    (count value : Nat) (rest : List Char) (room : count + digits.length ≤ 6) :
    readCodePoint? count value (digits ++ rest) =
      readCodePoint? (count + digits.length) (value * 16 ^ digits.length + point) rest := by
  have digit {c : Char} {digit : Nat} (known : hexDigit? c = some digit) (count value : Nat)
      (rest : List Char) (room : count < 6) :
      readCodePoint? count value (c :: rest) =
        readCodePoint? (count + 1) (value * 16 + digit) rest := by
    have notClosing : c ≠ '\x7d' := by
      rintro rfl
      cases known
    have notLow : c ≠ '_' := by
      rintro rfl
      cases known
    rw [readCodePoint?, if_neg notClosing, if_neg notLow, known]
    simp only [room, if_true]
  -- The digits grow at their end, so the last one is read in front of what follows them.
  induction spelled generalizing rest with
  | digit known =>
      rw [List.length_singleton] at room
      simpa using digit known count value rest (by omega)
  | more before known inductionHypothesis =>
      rw [List.length_append, List.length_singleton] at room ⊢
      rw [List.append_assoc, inductionHypothesis _ (by omega), List.singleton_append,
        digit known _ _ _ (by omega)]
      congr 1
      rw [Nat.pow_succ, ← Nat.mul_assoc, Nat.add_mul, Nat.add_assoc]

/-- A code point in braces is read as its character. -/
theorem readEscape?_codePoint {digits : List Char} {c : Char} (spelled : SpellsHex digits c.toNat)
    (few : digits.length ≤ 6) (rest : List Char) :
    readEscape? ('u' :: '\x7b' :: (digits ++ '\x7d' :: rest)) = some (c, rest) := by
  have valid : c.toNat.isValidChar := c.valid
  have written := spelled.length_pos
  have read : readCodePoint? 0 0 (digits ++ '\x7d' :: rest) = some (c.toNat, rest) := by
    rw [readCodePoint?_digits spelled _ _ _ (by omega), readCodePoint?, if_pos rfl,
      if_neg (by omega)]
    simp
  simp only [readEscape?, read, Option.bind_eq_bind, Option.bind_some, valid, if_true,
    Char.ofNat_toNat]

/-! ### Literals -/

/-- No line break stands between the quotes. -/
theorem Denotes.on_line {text value : List Char} (denotes : Denotes text value) :
    ∀ c ∈ text, c ≠ '\n' ∧ c ≠ '\r' := by
  induction denotes with
  | empty => exact fun c member => absurd member List.not_mem_nil
  | plain unmarked _ inductionHypothesis =>
      simp only [List.mem_cons, not_or] at unmarked
      exact List.forall_mem_cons.2 ⟨⟨unmarked.2.2.1, unmarked.2.2.2.1⟩, inductionHypothesis⟩
  | @escape mark c _ _ known _ inductionHypothesis =>
      have shown : mark ≠ '\n' ∧ mark ≠ '\r' := by
        simp only [simpleEscapes, List.mem_cons, Prod.mk.injEq, List.not_mem_nil, or_false] at known
        rcases known with ⟨rfl, -⟩ | ⟨rfl, -⟩ | ⟨rfl, -⟩ | ⟨rfl, -⟩ | ⟨rfl, -⟩ | ⟨rfl, -⟩ |
          ⟨rfl, -⟩ <;> decide
      exact List.forall_mem_cons.2 ⟨by decide, List.forall_mem_cons.2 ⟨shown, inductionHypothesis⟩⟩
  | codePoint spelled few _ inductionHypothesis =>
      have digits := spelled.isDigit
      simp only [List.cons_append, List.forall_mem_cons, List.forall_mem_append]
      refine ⟨by decide, by decide, by decide, fun c member => ?_, by decide, inductionHypothesis⟩
      obtain ⟨value, known⟩ := digits c member
      constructor <;> (rintro rfl; cases known)

/-- Each character takes at least one place between the quotes. -/
theorem Denotes.length_le {text value : List Char} (denotes : Denotes text value) :
    value.length ≤ text.length := by
  induction denotes with
  | empty => exact Nat.le_refl _
  | _ =>
      simp only [List.cons_append, List.length_cons, List.length_append]
      omega

/-- An escape that does not fold a line stands for its character. -/
theorem readCooked?_escape {escape rest : List Char} {c : Char} (steps : Nat)
    (unfolded : dropFolded? escape = none) (read : readEscape? escape = some (c, rest)) :
    readCooked? (steps + 1) ('\\' :: escape) =
      (readCooked? steps rest).map fun (value, rest) => (c :: value, rest) := by
  simp only [readCooked?, unfolded, read, Option.bind_eq_bind, Option.bind_some]
  cases readCooked? steps rest <;> rfl

/-- What a literal denotes is read up to its closing quote, in as many steps. -/
theorem Denotes.readCooked? {text value : List Char} (denotes : Denotes text value) (steps : Nat)
    (enough : value.length < steps) (rest : List Char) :
    Source.readCooked? steps (text ++ '"' :: rest) = some (value, rest) := by
  induction denotes generalizing steps with
  | empty =>
      obtain ⟨fewer, rfl⟩ := Nat.exists_eq_succ_of_ne_zero (Nat.ne_of_gt enough)
      rfl
  | @plain c text value unmarked _ inductionHypothesis =>
      obtain ⟨fewer, rfl⟩ := Nat.exists_eq_succ_of_ne_zero (Nat.ne_of_gt (Nat.zero_lt_of_lt enough))
      have read := inductionHypothesis fewer (by simpa using enough)
      simp only [List.mem_cons, not_or] at unmarked
      obtain ⟨quote, backslash, -, carriage, -⟩ := unmarked
      rw [List.cons_append, Source.readCooked?]
      · simp [carriage, read]
      · exact fun same => quote same
      · exact fun _ same => absurd same carriage
      · exact fun same => backslash same
  | @escape mark c text value known _ inductionHypothesis =>
      obtain ⟨fewer, rfl⟩ := Nat.exists_eq_succ_of_ne_zero (Nat.ne_of_gt (Nat.zero_lt_of_lt enough))
      have read := inductionHypothesis fewer (by simpa using enough)
      have marked (rest : List Char) :
          dropFolded? (mark :: rest) = none ∧ readEscape? (mark :: rest) = some (c, rest) := by
        simp only [simpleEscapes, List.mem_cons, Prod.mk.injEq, List.not_mem_nil, or_false] at known
        rcases known with ⟨rfl, rfl⟩ | ⟨rfl, rfl⟩ | ⟨rfl, rfl⟩ | ⟨rfl, rfl⟩ | ⟨rfl, rfl⟩ |
          ⟨rfl, rfl⟩ | ⟨rfl, rfl⟩ <;> exact ⟨rfl, rfl⟩
      rw [List.cons_append, List.cons_append,
        readCooked?_escape fewer (marked _).1 (marked _).2, read]
      rfl
  | @codePoint digits c text value spelled few _ inductionHypothesis =>
      obtain ⟨fewer, rfl⟩ := Nat.exists_eq_succ_of_ne_zero (Nat.ne_of_gt (Nat.zero_lt_of_lt enough))
      have read := inductionHypothesis fewer (by simpa using enough)
      simp only [List.cons_append, List.append_assoc]
      rw [readCooked?_escape fewer rfl (readEscape?_codePoint spelled few _), read]
      rfl

/-- A literal is read as what it denotes, whatever follows it. -/
theorem Denotes.readString? {text value : List Char} (denotes : Denotes text value)
    (rest : List Char) : Source.readString? ('"' :: text ++ '"' :: rest) = some (value, rest) := by
  have long := denotes.length_le
  rw [List.cons_append, Source.readString?]
  apply denotes.readCooked?
  simp only [List.length_append]
  omega

/-- A literal denotes one text only. -/
theorem Denotes.unique {text value other : List Char} (first : Denotes text value)
    (second : Denotes text other) : value = other := by
  have same := (first.readString? []).symm.trans (second.readString? [])
  simpa using same

/-! ### Quoted texts -/

/-- The spelling of a character denotes it, in front of the rest of a literal. -/
theorem denotes_quotedChar (c : Char) {text value : List Char} (rest : Denotes text value) :
    Denotes (quotedChar c ++ text) (c :: value) := by
  rw [quotedChar]
  split
  · next zero => exact zero ▸ .escape (by decide) rest
  split
  · next tab => exact tab ▸ .escape (by decide) rest
  split
  · next carriage => exact carriage ▸ .escape (by decide) rest
  split
  · next newline => exact newline ▸ .escape (by decide) rest
  split
  · next quote =>
      subst quote
      exact .escape (by decide) rest
  split
  · next backslash =>
      subst backslash
      exact .escape (by decide) rest
  split
  · have bounded : c.toNat < 16 ^ 6 := by
      have valid : c.toNat.isValidChar := c.valid
      rcases valid with small | ⟨-, small⟩ <;> omega
    have few := length_lowerHex_le 5 c.toNat bounded
    simpa using Denotes.codePoint (spellsHex_lowerHex c.toNat) few rest
  · next carriage newline quote backslash _ =>
      exact .plain (by simp [quote, backslash, newline, carriage]) rest

/-- The spellings of characters denote them. -/
theorem denotes_quoted (chars : List Char) : Denotes (chars.flatMap quotedChar) chars := by
  induction chars with
  | nil => exact .empty
  | cons c chars inductionHypothesis => exact denotes_quotedChar c inductionHypothesis

theorem quoted_toList (text : String) :
    (quoted text).toList = '"' :: text.toList.flatMap quotedChar ++ ['"'] := by
  rw [quoted, String.toList_ofList]

/-- A text reads back from its string literal, whatever follows it. -/
theorem readString?_quoted (text : String) (rest : List Char) :
    Source.readString? ((quoted text).toList ++ rest) = some (text.toList, rest) := by
  rw [quoted_toList, List.append_assoc]
  exact (denotes_quoted text.toList).readString? rest

theorem isPrintable_lowerHex (value : Nat) :
    ∀ c ∈ lowerHex value, Unicode.isPrintable c = true := by
  have digit : ∀ digit < 16, Unicode.isPrintable (lowerHexDigit digit) = true := by decide
  induction value using Text.lowerHex.induct with
  | case1 value small =>
      rw [lowerHex, if_pos small]
      simpa using digit value small
  | case2 value great inductionHypothesis =>
      rw [lowerHex, if_neg great, List.forall_mem_append]
      exact ⟨inductionHypothesis, by simpa using digit _ (Nat.mod_lt _ (by decide))⟩

/-- The spelling of a character can be seen, whatever the character is. -/
theorem isPrintable_quotedChar (c : Char) :
    ∀ mark ∈ quotedChar c, Unicode.isPrintable mark = true := by
  rw [quotedChar]
  split
  · exact List.all_eq_true.1 (by decide)
  split
  · exact List.all_eq_true.1 (by decide)
  split
  · exact List.all_eq_true.1 (by decide)
  split
  · exact List.all_eq_true.1 (by decide)
  split
  · exact List.all_eq_true.1 (by decide)
  split
  · exact List.all_eq_true.1 (by decide)
  split
  · rw [List.forall_mem_append, List.forall_mem_append, List.forall_mem_singleton]
    exact ⟨⟨List.all_eq_true.1 (by decide), isPrintable_lowerHex c.toNat⟩, by decide⟩
  · next shown =>
      simp only [Text.needsCodePoint, Bool.or_eq_true, Bool.not_eq_true', not_or,
        Bool.not_eq_false] at shown
      simpa using shown.2

/-- A literal stands on one line and denotes this text and no other one. -/
structure IsLiteral (literal text : String) : Prop where
  denotes : ∃ inside, literal.toList = '"' :: inside ++ ['"'] ∧
    ∀ value, Denotes inside value ↔ value = text.toList
  on_line : ∀ c ∈ literal.toList, c ≠ '\n' ∧ c ≠ '\r'
  printable : ∀ c ∈ literal.toList, Unicode.isPrintable c = true
  read : ∀ rest, Source.readString? (literal.toList ++ rest) = some (text.toList, rest)

theorem isLiteral_quoted (text : String) : IsLiteral (quoted text) text := by
  have denotes := denotes_quoted text.toList
  refine ⟨⟨_, quoted_toList text, fun value => ⟨fun other => other.unique denotes, ?_⟩⟩, ?_, ?_,
    readString?_quoted text⟩
  · rintro rfl
    exact denotes
  · rw [quoted_toList, List.cons_append, List.forall_mem_cons, List.forall_mem_append,
      List.forall_mem_singleton]
    exact ⟨by decide, denotes.on_line, by decide⟩
  · rw [quoted_toList, List.cons_append, List.forall_mem_cons, List.forall_mem_append,
      List.forall_mem_singleton]
    refine ⟨by decide, fun c member => ?_, by decide⟩
    obtain ⟨source, -, spelled⟩ := List.mem_flatMap.1 member
    exact isPrintable_quotedChar source c spelled

end FieldRules.Source
