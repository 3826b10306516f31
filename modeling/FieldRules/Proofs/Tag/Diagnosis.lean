import FieldRules.Proofs.Tag.Grammar

/-!
This file says what the report of a malformed tag tells. The token in the report is the first piece
of the tag that spells no rule, and the fault in the report is true of this token.
-/

namespace FieldRules

open Text

/-- The parentheses of a text, in their order. -/
def parentheses (text : List Char) : List Char :=
  text.filter fun c => c == '(' || c == ')'

namespace TagFault

/-- The faults that speak of parentheses. -/
def ofParentheses : List TagFault :=
  [.unclosedParen, .unexpectedParen, .nestedParen]

/-- Each row is a token with the fault that is reported for it. -/
inductive Diagnoses : TagFault → List Char → Prop
  | empty : Diagnoses .emptyToken []
  | unopened {token : List Char} (unopened : '(' ∉ token) (closed : ')' ∈ token) :
      Diagnoses .unexpectedParen token
  | word {token : List Char} (bare : parentheses token = []) {c : Char} (member : c ∈ token)
      (other : isKeywordChar c = false) : Diagnoses .invalidKeyword token
  | unnamed {name rest : List Char} (blank : Blank name) :
      Diagnoses .missingKeyword (name ++ '(' :: rest)
  | misnamed {name rest : List Char} {c : Char} (member : c ∈ trim name)
      (other : isKeywordChar c = false) : Diagnoses .invalidKeyword (name ++ '(' :: rest)
  | unclosed {name rest : List Char} (keyword : IsKeyword (trim name))
      (bare : parentheses rest = []) : Diagnoses .unclosedParen (name ++ '(' :: rest)
  | reopened {name rest : List Char} (keyword : IsKeyword (trim name)) (opened : '(' ∈ rest)
      (unclosed : ')' ∉ rest) : Diagnoses .nestedParen (name ++ '(' :: rest)
  | nested {name inside after : List Char} (keyword : IsKeyword (trim name))
      (opened : '(' ∈ inside) : Diagnoses .nestedParen (name ++ '(' :: (inside ++ ')' :: after))
  | reclosed {name inside after : List Char} (keyword : IsKeyword (trim name))
      (closed : ')' ∈ after) : Diagnoses .unexpectedParen (name ++ '(' :: (inside ++ ')' :: after))
  | trailing {name inside after : List Char} (keyword : IsKeyword (trim name))
      (shown : ¬Blank after) : Diagnoses .trailingText (name ++ '(' :: (inside ++ ')' :: after))
  | unfilled {name inside after : List Char} (keyword : IsKeyword (trim name))
      (blank : Blank inside) : Diagnoses .emptyArgument (name ++ '(' :: (inside ++ ')' :: after))

/-- A fault is true of the text before, between or after the parentheses. -/
inductive HoldsOf (name inside after : List Char) : TagFault → Prop
  | missingKeyword (blank : Blank name) : HoldsOf name inside after .missingKeyword
  | invalidKeyword (c : Char) (member : c ∈ trim name) (other : isKeywordChar c = false) :
      HoldsOf name inside after .invalidKeyword
  | emptyArgument (blank : Blank inside) : HoldsOf name inside after .emptyArgument
  | trailingText (shown : ¬Blank after) : HoldsOf name inside after .trailingText

end TagFault

/-! ### Parentheses -/

section

variable {text before after : List Char}

@[simp]
theorem parentheses_append : parentheses (before ++ after) = parentheses before ++ parentheses after :=
  List.filter_append before after

@[simp]
theorem parentheses_open : parentheses ('(' :: text) = '(' :: parentheses text := rfl

@[simp]
theorem parentheses_close : parentheses (')' :: text) = ')' :: parentheses text := rfl

@[simp]
theorem open_mem_parentheses_iff : '(' ∈ parentheses text ↔ '(' ∈ text := by
  simp [parentheses]

@[simp]
theorem close_mem_parentheses_iff : ')' ∈ parentheses text ↔ ')' ∈ text := by
  simp [parentheses]

theorem parentheses_eq_nil_iff : parentheses text = [] ↔ '(' ∉ text ∧ ')' ∉ text := by
  rw [parentheses, List.filter_eq_nil_iff]
  constructor
  · intro others
    exact ⟨fun member => others '(' member rfl, fun member => others ')' member rfl⟩
  · rintro ⟨unopened, unclosed⟩ c member mark
    rw [Bool.or_eq_true, beq_iff_eq, beq_iff_eq] at mark
    rcases mark with rfl | rfl
    · exact unopened member
    · exact unclosed member

/-- An opening parenthesis of a text with one pair is the first one of the pair. -/
theorem parentheses_eq_pair_iff :
    parentheses (before ++ '(' :: after) = ['(', ')'] ↔
      parentheses before = [] ∧ parentheses after = [')'] := by
  rw [parentheses_append, parentheses_open]
  cases parentheses before with
  | nil => simp
  | cons first others => cases others <;> simp

/-- The closing parenthesis of a text with no other one has none on either side. -/
theorem parentheses_eq_close_iff :
    parentheses (before ++ ')' :: after) = [')'] ↔
      parentheses before = [] ∧ parentheses after = [] := by
  rw [parentheses_append, parentheses_close]
  cases parentheses before with
  | nil => simp
  | cons first others => cases others <;> simp

theorem parentheses_of_isKeyword {name : List Char} (keyword : IsKeyword (trim name)) :
    parentheses name = [] := by
  have around := around_trim name
  rw [parentheses_eq_nil_iff, around.mem_iff rfl, around.mem_iff rfl]
  exact ⟨keyword.not_mem (by decide), keyword.not_mem (by decide)⟩

end

/-! ### Tokens -/

theorem readKeyword_error {name : List Char} {fault : TagFault}
    (refused : readKeyword name = .error fault) :
    (fault = .missingKeyword ∧ name = []) ∨
      (fault = .invalidKeyword ∧ ∃ c ∈ name, isKeywordChar c = false) := by
  rw [readKeyword] at refused
  split at refused
  · next empty =>
      cases refused
      exact .inl ⟨rfl, List.isEmpty_iff.1 empty⟩
  · split at refused
    · cases refused
    · next other =>
        cases refused
        exact .inr ⟨rfl, by simpa using other⟩

theorem diagnoses_of_readArgument {name rest : List Char} {fault : TagFault}
    (keyword : IsKeyword (trim name)) (refused : readArgument rest = .error fault) :
    fault.Diagnoses (name ++ '(' :: rest) := by
  rw [readArgument] at refused
  split at refused
  · next uncut =>
      have unclosed : ')' ∉ rest := cutAt?_eq_none_iff.1 uncut
      cases refused
      split
      · next opened => exact .reopened keyword (List.contains_iff_mem.1 opened) unclosed
      · next unopened =>
          rw [List.contains_iff_mem] at unopened
          exact .unclosed keyword (parentheses_eq_nil_iff.2 ⟨unopened, unclosed⟩)
  · next inside after cut =>
      obtain ⟨rfl, -⟩ := cutAt?_eq_some_iff.1 cut
      split at refused
      · next opened =>
          cases refused
          exact .nested keyword (List.contains_iff_mem.1 opened)
      · split at refused
        · next shown =>
            cases refused
            split
            · next closed => exact .reclosed keyword (List.contains_iff_mem.1 closed)
            · rw [Bool.not_eq_true', ← Bool.not_eq_true, List.isEmpty_iff, trim_eq_nil_iff] at shown
              exact .trailing keyword shown
        · split at refused
          · next blank =>
              cases refused
              rw [List.isEmpty_iff, trim_eq_nil_iff] at blank
              exact .unfilled keyword blank
          · cases refused

/-- Each fault that is reported is diagnosed by the token. -/
theorem diagnoses_of_readRule {token : List Char} {fault : TagFault}
    (refused : readRule token = .error fault) : fault.Diagnoses token := by
  rw [readRule] at refused
  split at refused
  · next empty =>
      cases refused
      rw [List.isEmpty_iff.1 empty]
      exact .empty
  · next filled =>
      split at refused
      · next uncut =>
          have unopened : '(' ∉ token := cutAt?_eq_none_iff.1 uncut
          split at refused
          · next closed =>
              cases refused
              exact .unopened unopened (List.contains_iff_mem.1 closed)
          · next unclosed =>
              rw [List.contains_iff_mem] at unclosed
              split at refused
              · next named =>
                  cases refused
                  rcases readKeyword_error named with ⟨-, empty⟩ | ⟨rfl, c, member, other⟩
                  · exact absurd (List.isEmpty_iff.2 empty) filled
                  · exact .word (parentheses_eq_nil_iff.2 ⟨unopened, unclosed⟩) member other
              · cases refused
      · next name rest cut =>
          obtain ⟨rfl, -⟩ := cutAt?_eq_some_iff.1 cut
          split at refused
          · next named =>
              cases refused
              rcases readKeyword_error named with ⟨rfl, empty⟩ | ⟨rfl, c, member, other⟩
              · exact .unnamed (trim_eq_nil_iff.1 empty)
              · exact .misnamed member other
          · next keyword named =>
              have valid : IsKeyword (trim name) := (readKeyword_ok_iff.1 named).1
              split at refused
              · next applied =>
                  cases refused
                  exact diagnoses_of_readArgument valid applied
              · cases refused

namespace TagFault.Diagnoses

variable {fault : TagFault} {token : List Char}

theorem eq_emptyToken_iff (diagnoses : fault.Diagnoses token) :
    fault = .emptyToken ↔ token = [] := by
  cases diagnoses with
  | empty => simp
  | unopened unopened closed => simp [List.ne_nil_of_mem closed]
  | word bare member => simp [List.ne_nil_of_mem member]
  | _ => simp

/-- A fault that speaks of parentheses is reported only if the token has no proper pair. -/
theorem parentheses_ne_pair (diagnoses : fault.Diagnoses token)
    (speaks : fault ∈ ofParentheses) : parentheses token ≠ ['(', ')'] := by
  intro pair
  cases diagnoses with
  | unopened unopened =>
      rw [← open_mem_parentheses_iff, pair] at unopened
      simp at unopened
  | unclosed keyword bare =>
      rw [parentheses_eq_pair_iff, bare] at pair
      cases pair.2
  | reopened keyword opened =>
      rw [parentheses_eq_pair_iff] at pair
      rw [← open_mem_parentheses_iff, pair.2] at opened
      simp at opened
  | nested keyword opened =>
      rw [parentheses_eq_pair_iff, parentheses_eq_close_iff] at pair
      exact (parentheses_eq_nil_iff.1 pair.2.1).1 opened
  | reclosed keyword closed =>
      rw [parentheses_eq_pair_iff, parentheses_eq_close_iff] at pair
      exact (parentheses_eq_nil_iff.1 pair.2.2).2 closed
  | _ => simp [ofParentheses] at speaks

theorem parentheses_of_unclosedParen (diagnoses : fault.Diagnoses token)
    (unclosed : fault = .unclosedParen) : parentheses token = ['('] := by
  cases diagnoses with
  | unclosed keyword bare => simp [parentheses_of_isKeyword keyword, bare]
  | _ => cases unclosed

/-- A token with one pair of parentheses has a fault of its parts. -/
theorem holdsOf_of_pair (diagnoses : fault.Diagnoses token)
    (pair : parentheses token = ['(', ')']) :
    ∃ name inside after, token = name ++ '(' :: (inside ++ ')' :: after) ∧
      fault.HoldsOf name inside after := by
  have closes {name rest : List Char} (pair : parentheses (name ++ '(' :: rest) = ['(', ')']) :
      ∃ inside after, rest = inside ++ ')' :: after := by
    have closed : ')' ∈ parentheses rest := by
      rw [(parentheses_eq_pair_iff.1 pair).2]
      exact List.mem_singleton_self _
    exact List.append_of_mem (close_mem_parentheses_iff.1 closed)
  have speechless := diagnoses.parentheses_ne_pair
  cases diagnoses with
  | empty => cases pair
  | word bare => cases bare.symm.trans pair
  | unnamed blank =>
      obtain ⟨inside, after, rfl⟩ := closes pair
      exact ⟨_, inside, after, rfl, .missingKeyword blank⟩
  | misnamed member other =>
      obtain ⟨inside, after, rfl⟩ := closes pair
      exact ⟨_, inside, after, rfl, .invalidKeyword _ member other⟩
  | trailing keyword shown => exact ⟨_, _, _, rfl, .trailingText shown⟩
  | unfilled keyword blank => exact ⟨_, _, _, rfl, .emptyArgument blank⟩
  | _ => exact absurd pair (speechless (by decide))

end TagFault.Diagnoses

/-! ### Tags -/

/-- The first token that is no rule stops the reader. -/
theorem readTokens_error {field tag : String} {tokens : List (List Char)} {error : MalformedTag}
    (stopped : readTokens field tag tokens = .error error) :
    ∃ before token after fault, tokens = before ++ token :: after ∧
      (∀ earlier ∈ before, ∃ rule, readRule earlier = .ok rule) ∧
      readRule token = .error fault ∧ error = ⟨field, tag, String.ofList token, fault⟩ := by
  induction tokens with
  | nil => cases stopped
  | cons token tokens inductionHypothesis =>
      rw [readTokens] at stopped
      split at stopped
      · next fault refused =>
          cases stopped
          exact ⟨[], token, tokens, fault, rfl, by simp, refused, rfl⟩
      · next rule read =>
          split at stopped
          · next rest =>
              cases stopped
              obtain ⟨before, later, after, fault, rfl, earlier, refused, rfl⟩ :=
                inductionHypothesis rest
              refine ⟨token :: before, later, after, fault, rfl, ?_, refused, rfl⟩
              exact List.forall_mem_cons.2 ⟨⟨rule, read⟩, earlier⟩
          · cases stopped

/-- The first piece of a tag that spells no rule is reported. -/
theorem readTag_error {field tag : String} {error : MalformedTag}
    (stopped : readTag field tag = .error error) :
    ∃ before piece after fault, tag.toList.splitOn ',' = before ++ piece :: after ∧
      (∀ earlier ∈ before, ∃ rule : Rule, rule.Spelled earlier) ∧
      readRule (trim piece) = .error fault ∧
      error = ⟨field, tag, String.ofList (trim piece), fault⟩ := by
  rw [readTag] at stopped
  split at stopped
  · cases stopped
  · obtain ⟨first, token, last, fault, split, earlier, refused, rfl⟩ := readTokens_error stopped
    rw [tagTokens, pieces_eq_splitOn, List.map_eq_append_iff] at split
    obtain ⟨before, rest, pieces, rfl, others⟩ := split
    obtain ⟨piece, after, rfl, rfl, rfl⟩ := List.map_eq_cons_iff.1 others
    refine ⟨before, piece, after, fault, pieces, fun other member => ?_, refused, rfl⟩
    obtain ⟨rule, read⟩ := earlier _ (List.mem_map_of_mem member)
    exact ⟨rule, readRule_trim_ok_iff.1 read⟩

/-- A malformed tag is reported with its first bad token and what is wrong with it. -/
theorem malformed_tags_are_diagnosed {field tag : String} {error : MalformedTag}
    (stopped : readTag field tag = .error error) :
    error.field = field ∧ error.tag = tag ∧
    (∃ before piece after, tag.toList.splitOn ',' = before ++ piece :: after ∧
      error.token.toList = trim piece ∧
      (∀ earlier ∈ before, ∃ rule : Rule, rule.Spelled earlier) ∧
      ¬∃ rule : Rule, rule.Spelled piece) ∧
    (error.fault = .emptyToken ↔ error.token = "") ∧
    (error.fault ∈ TagFault.ofParentheses → parentheses error.token.toList ≠ ['(', ')']) ∧
    (error.fault = .unclosedParen → parentheses error.token.toList = ['(']) ∧
    (parentheses error.token.toList = ['(', ')'] →
      ∃ name inside after, error.token.toList = name ++ '(' :: (inside ++ ')' :: after) ∧
        error.fault.HoldsOf name inside after) := by
  obtain ⟨before, piece, after, fault, pieces, earlier, refused, rfl⟩ := readTag_error stopped
  have diagnoses := diagnoses_of_readRule refused
  have unspelled : ¬∃ rule : Rule, rule.Spelled piece := by
    rintro ⟨rule, spelled⟩
    cases refused.symm.trans (readRule_of_spelled spelled)
  have token : (String.ofList (trim piece)).toList = trim piece := String.toList_ofList
  dsimp only
  rw [token]
  refine ⟨rfl, rfl, ⟨before, piece, after, pieces, rfl, earlier, unspelled⟩, ?_,
    diagnoses.parentheses_ne_pair, diagnoses.parentheses_of_unclosedParen,
    diagnoses.holdsOf_of_pair⟩
  rw [diagnoses.eq_emptyToken_iff, ← token, String.toList_eq_nil_iff]
  simp

theorem malformed_tags_are_diagnosed_of_nested_token :
    readTag "age" "req, min((3)" =
      .error ⟨"age", "req, min((3)", "min((3)", .nestedParen⟩ ∧
    parentheses "min((3)".toList ≠ ['(', ')'] ∧ "min((3)" ≠ "" := by
  have stopped : readTag "age" "req, min((3)" =
      .error ⟨"age", "req, min((3)", "min((3)", .nestedParen⟩ := rfl
  obtain ⟨-, -, -, empty, speaks, -⟩ := malformed_tags_are_diagnosed stopped
  exact ⟨stopped, speaks (by decide), fun none => absurd (empty.2 none) (by decide)⟩

end FieldRules
