import FieldRules.Proofs.Text.Cut
import FieldRules.Record.Basic
import FieldRules.Tag.Reader
import Mathlib.Data.List.Forall2

/-!
This file says which texts are tags. A tag is blank, or each of its pieces between commas spells a
rule. The reader accepts exactly the tags, with the rules that their pieces spell.
-/

namespace FieldRules

open Text

/-- A keyword is a word of letters, digits and underscores of ASCII. -/
structure IsKeyword (name : List Char) : Prop where
  nonempty : name ≠ []
  word : ∀ c ∈ name, isKeywordChar c = true

/-- An argument has no blanks at its ends and no parentheses. -/
structure IsArgument (argument : List Char) : Prop where
  nonempty : argument ≠ []
  tight : Tight argument
  unopened : '(' ∉ argument
  unclosed : ')' ∉ argument

/-- A piece of a tag spells a rule, perhaps with blanks around its parts. -/
inductive Rule.Spelled : Rule → List Char → Prop
  | bare {keyword piece : List Char} (valid : IsKeyword keyword) (around : Around keyword piece) :
      Spelled ⟨String.ofList keyword, none⟩ piece
  | applied {keyword argument name inside after : List Char} (valid : IsKeyword keyword)
      (fits : IsArgument argument) (aroundKeyword : Around keyword name)
      (aroundArgument : Around argument inside) (back : Blank after) :
      Spelled ⟨String.ofList keyword, some (String.ofList argument)⟩
        (name ++ '(' :: (inside ++ ')' :: after))

/-- The tag is blank or its pieces spell the rules, one after the other. -/
def Declares (tag : String) (rules : List Rule) : Prop :=
  (Blank tag.toList ∧ rules = []) ∨ List.Forall₂ Rule.Spelled rules (tag.toList.splitOn ',')

/-! ### Keywords and arguments -/

theorem isBlank_of_isKeywordChar {c : Char} (word : isKeywordChar c = true) : isBlank c = false := by
  simp only [isKeywordChar, isAsciiAlphanumeric, isAsciiLetter, isAsciiLower, isAsciiUpper, isDigit,
    Bool.or_eq_true, Bool.and_eq_true, decide_eq_true_eq, beq_iff_eq, Char.le_def,
    UInt32.le_iff_toNat_le] at word
  have bounds : 48 ≤ c.toNat ∧ c.toNat ≤ 122 := by
    rcases word with ((lower | upper) | digit) | rfl
    · change 97 ≤ c.toNat ∧ c.toNat ≤ 122 at lower
      omega
    · change 65 ≤ c.toNat ∧ c.toNat ≤ 90 at upper
      omega
    · change 48 ≤ c.toNat ∧ c.toNat ≤ 57 at digit
      omega
    · decide
  simp only [isBlank, Bool.or_eq_false_iff, Bool.and_eq_false_iff, decide_eq_false_iff_not,
    beq_eq_false_iff_ne]
  omega

namespace IsKeyword

variable {name : List Char}

theorem not_mem (valid : IsKeyword name) {mark : Char} (other : isKeywordChar mark = false) :
    mark ∉ name := by
  intro member
  rw [valid.word mark member] at other
  cases other

theorem tight (valid : IsKeyword name) : Tight name :=
  ⟨fun c first => isBlank_of_isKeywordChar (valid.word c (List.mem_of_mem_head? first)),
    fun c last => isBlank_of_isKeywordChar (valid.word c (List.mem_of_getLast? last))⟩

end IsKeyword

theorem readKeyword_ok_iff {name : List Char} {keyword : String} :
    readKeyword name = .ok keyword ↔ IsKeyword name ∧ keyword = String.ofList name := by
  rw [readKeyword]
  split
  · next empty =>
      rw [List.isEmpty_iff] at empty
      exact iff_of_false nofun fun valid => valid.1.nonempty empty
  · next nonempty =>
      rw [List.isEmpty_iff] at nonempty
      split
      · next word =>
          rw [List.all_eq_true] at word
          rw [Except.ok.injEq]
          exact ⟨fun same => ⟨⟨nonempty, word⟩, same.symm⟩, fun valid => valid.2.symm⟩
      · next other =>
          rw [List.all_eq_true] at other
          exact iff_of_false nofun fun valid => other valid.1.word

/-- A text with blanks around an argument is one whose trimmed text is the argument. -/
theorem IsArgument.around_iff {core inside : List Char} :
    IsArgument core ∧ Around core inside ↔
      trim inside = core ∧ core ≠ [] ∧ '(' ∉ inside ∧ ')' ∉ inside := by
  constructor
  · rintro ⟨fits, around⟩
    refine ⟨around.trim fits.tight, fits.nonempty, ?_, ?_⟩
    · rw [around.mem_iff rfl]
      exact fits.unopened
    · rw [around.mem_iff rfl]
      exact fits.unclosed
  · rintro ⟨rfl, nonempty, unopened, unclosed⟩
    have around := around_trim inside
    rw [around.mem_iff rfl] at unopened unclosed
    exact ⟨⟨nonempty, tight_trim inside, unopened, unclosed⟩, around⟩

/-- An argument is read up to its closing parenthesis, which only blanks follow. -/
theorem readArgument_ok_iff {rest : List Char} {argument : String} :
    readArgument rest = .ok argument ↔ ∃ core inside after, (IsArgument core ∧ Around core inside) ∧
      Blank after ∧ rest = inside ++ ')' :: after ∧ argument = String.ofList core := by
  simp only [IsArgument.around_iff]
  rw [readArgument]
  split
  · next uncut =>
      rw [cutAt?_eq_none_iff] at uncut
      refine iff_of_false nofun ?_
      rintro ⟨core, inside, after, -, -, rfl, -⟩
      simp at uncut
  · next inside after cut =>
      constructor
      · intro read
        split at read
        · cases read
        · next unopened =>
            split at read
            · cases read
            · next behind =>
                split at read
                · cases read
                · next nonempty =>
                    cases read
                    obtain ⟨rfl, unclosed⟩ := cutAt?_eq_some_iff.1 cut
                    rw [Bool.not_eq_true, Bool.not_eq_false', List.isEmpty_iff, trim_eq_nil_iff]
                      at behind
                    rw [List.isEmpty_iff] at nonempty
                    rw [List.contains_iff_mem] at unopened
                    exact ⟨_, inside, after, ⟨rfl, nonempty, unopened, unclosed⟩, behind, rfl, rfl⟩
      · rintro ⟨core, other, blank, ⟨rfl, nonempty, unopened, unclosed⟩, back, rfl, rfl⟩
        obtain ⟨rfl, rfl⟩ := Prod.mk.inj (Option.some.inj (cut.symm.trans
          (cutAt?_eq_some_iff.2 ⟨rfl, unclosed⟩)))
        rw [← trim_eq_nil_iff] at back
        simp [unopened, back, nonempty]

/-! ### Pieces -/

/-- A piece that is read spells its rule. -/
theorem spelled_of_readRule {piece : List Char} {rule : Rule}
    (read : readRule (trim piece) = .ok rule) : rule.Spelled piece := by
  rw [readRule] at read
  split at read
  · cases read
  · split at read
    · split at read
      · cases read
      · split at read
        · cases read
        · next keyword named =>
            cases read
            obtain ⟨valid, rfl⟩ := readKeyword_ok_iff.1 named
            exact .bare valid (around_trim piece)
    · next name rest cut =>
        split at read
        · cases read
        · next keyword named =>
            split at read
            · cases read
            · next argument applied =>
                cases read
                obtain ⟨valid, rfl⟩ := readKeyword_ok_iff.1 named
                obtain ⟨core, inside, after, ⟨fits, aroundArgument⟩, back, rfl, rfl⟩ :=
                  readArgument_ok_iff.1 applied
                obtain ⟨before, behind, front, last, whole⟩ := around_trim piece
                rw [(cutAt?_eq_some_iff.1 cut).1] at whole
                have parts : piece =
                    (before ++ name ++ []) ++ '(' :: (inside ++ ')' :: (after ++ behind)) := by
                  rw [whole]
                  simp
                rw [parts]
                exact .applied valid fits ((around_trim name).append front blank_nil)
                  aroundArgument (back.append last)

/-- A piece that spells a rule is read as the rule. -/
theorem readRule_of_spelled {piece : List Char} {rule : Rule} (spelled : rule.Spelled piece) :
    readRule (trim piece) = .ok rule := by
  cases spelled with
  | @bare keyword _ valid around =>
      have uncut : cutAt? '(' keyword = none := cutAt?_eq_none_iff.2 (valid.not_mem (by decide))
      have unclosed : ')' ∉ keyword := valid.not_mem (by decide)
      rw [around.trim valid.tight]
      simp [readRule, valid.nonempty, uncut, unclosed, readKeyword_ok_iff.2 ⟨valid, rfl⟩]
  | @applied keyword argument name inside after valid fits aroundKeyword aroundArgument back =>
      -- The keyword and the closing parenthesis are the ends of the trimmed piece, so trimming
      -- leaves the blanks between them, and they are removed around each part.
      obtain ⟨before, between, front, gap, rfl⟩ := aroundKeyword
      have aroundKeyword : Around keyword (keyword ++ between) := ⟨[], between, blank_nil, gap, rfl⟩
      have tight : Tight (keyword ++ (between ++ '(' :: inside) ++ [')']) :=
        valid.tight.enclose ⟨by simp; decide, by simp; decide⟩ valid.nonempty (by simp) _
      have trimmed : trim (before ++ keyword ++ between ++ '(' :: (inside ++ ')' :: after)) =
          (keyword ++ between) ++ '(' :: (inside ++ [')']) :=
        trim_eq_iff.2 ⟨by simpa using tight, before, after, front, back, by simp⟩
      have unopened : '(' ∉ keyword ++ between := by
        rw [aroundKeyword.mem_iff rfl]
        exact valid.not_mem (by decide)
      have cut : cutAt? '(' ((keyword ++ between) ++ '(' :: (inside ++ [')'])) =
          some (keyword ++ between, inside ++ [')']) := cutAt?_eq_some_iff.2 ⟨rfl, unopened⟩
      have named : readKeyword (trim (keyword ++ between)) = .ok (String.ofList keyword) := by
        rw [aroundKeyword.trim valid.tight]
        exact readKeyword_ok_iff.2 ⟨valid, rfl⟩
      have applied : readArgument (inside ++ [')']) = .ok (String.ofList argument) :=
        readArgument_ok_iff.2 ⟨_, inside, [], ⟨fits, aroundArgument⟩, blank_nil, rfl, rfl⟩
      rw [trimmed, readRule, cut, if_neg (by simp)]
      dsimp only
      rw [named, applied]

theorem readRule_trim_ok_iff {piece : List Char} {rule : Rule} :
    readRule (trim piece) = .ok rule ↔ rule.Spelled piece :=
  ⟨spelled_of_readRule, readRule_of_spelled⟩

/-- A piece that spells a rule is not blank. -/
theorem Rule.Spelled.not_blank {piece : List Char} {rule : Rule} (spelled : rule.Spelled piece) :
    ¬Blank piece := by
  intro blank
  have read := readRule_of_spelled spelled
  rw [trim_eq_nil_iff.2 blank] at read
  cases read

/-! ### Tags -/

/-- The tokens are read one by one, and each one gives one rule. -/
theorem readTokens_ok_iff {field tag : String} {tokens : List (List Char)} {rules : List Rule} :
    readTokens field tag tokens = .ok rules ↔
      List.Forall₂ (fun rule token => readRule token = .ok rule) rules tokens := by
  induction tokens generalizing rules with
  | nil => cases rules <;> simp [readTokens]
  | cons token tokens inductionHypothesis =>
      rw [readTokens, List.forall₂_cons_right_iff]
      cases first : readRule token with
      | error fault => simp
      | ok rule =>
          cases rest : readTokens field tag tokens with
          | error error => simp [← inductionHypothesis, rest]
          | ok others =>
              simp only [← inductionHypothesis, rest, Except.ok.injEq]
              constructor
              · rintro rfl
                exact ⟨rule, others, rfl, rfl, rfl⟩
              · rintro ⟨_, _, rfl, rfl, rfl⟩
                rfl

/-- The reader gives the rules that the tag declares. -/
theorem readTag_ok_iff {field tag : String} {rules : List Rule} :
    readTag field tag = .ok rules ↔ Declares tag rules := by
  rw [readTag, Declares]
  split
  · next empty =>
      have blank := trim_eq_nil_iff.1 (List.isEmpty_iff.1 empty)
      have whole : tag.toList.splitOn ',' = [tag.toList] := by
        refine List.splitOn_eq_singleton fun member => ?_
        cases blank ',' member
      rw [whole, Except.ok.injEq]
      constructor
      · rintro rfl
        exact .inl ⟨blank, rfl⟩
      · rintro (⟨-, rfl⟩ | spelled)
        · rfl
        · obtain ⟨rule, _, spelled, -⟩ := List.forall₂_cons_right_iff.1 spelled
          exact absurd blank spelled.not_blank
  · next shown =>
      rw [List.isEmpty_iff, trim_eq_nil_iff] at shown
      rw [readTokens_ok_iff, tagTokens, pieces_eq_splitOn, List.forall₂_map_right_iff]
      simp only [readRule_trim_ok_iff, shown, false_and, false_or]

/-- A field without a tag has no rules. -/
theorem readTag_of_untagged {field : Field} (untagged : field.isTagged = false) :
    readTag field.name field.tag = .ok [] := by
  have blank : (trim field.tag.toList).isEmpty = true := by
    simpa [Field.isTagged] using untagged
  rw [readTag, if_pos blank]

/-- The reader gives the rules that a tag declares and refuses all other texts. -/
theorem tags_are_read_exactly (field tag : String) :
    (∀ rules, readTag field tag = .ok rules ↔ Declares tag rules) ∧
    ((∃ error, readTag field tag = .error error) ↔ ¬∃ rules, Declares tag rules) := by
  have accepted : ∀ rules, readTag field tag = .ok rules ↔ Declares tag rules :=
    fun rules => readTag_ok_iff
  refine ⟨accepted, ?_⟩
  simp only [← accepted]
  cases readTag field tag <;> simp

end FieldRules
