import FieldRules.Source.Reader
import Mathlib.Data.List.TakeWhile

/-!
This file says which characters tokens have. The text of a list of tokens without spaces is the text
of each of them in turn, and no word that is read from source holds a colon.
-/

namespace FieldRules.Source

/-! ### Texts without spaces -/

namespace Token

/-- The characters of a token without its spaces. -/
def shown (token : Token) : List Char :=
  token.text.toList.filter (· != ' ')

theorem filter_textOf (tokens : List Token) :
    (textOf tokens).toList.filter (· != ' ') = tokens.flatMap shown := by
  induction tokens with
  | nil => rfl
  | cons token tokens inductionHypothesis =>
      rw [List.flatMap_cons, ← inductionHypothesis, shown]
      cases tokens with
      | nil => simp [textOf]
      | cons next tokens =>
          cases token with
          | mark c isJoint => cases isJoint <;> by_cases blank : c = ' ' <;> simp [textOf, text, blank]
          | word | literal | group => simp [textOf]

/-- Tokens stand next to each other in their compact text. -/
theorem compactTextOf_toList (tokens : List Token) :
    (compactTextOf tokens).toList = tokens.flatMap shown := by
  rw [compactTextOf, String.toList_ofList, filter_textOf]

/-! ### Words -/

mutual

/-- No word holds a colon, also not inside of brackets. -/
def IsPlain : Token → Prop
  | .word text => ':' ∉ text.toList
  | .literal _ => True
  | .mark _ _ => True
  | .group _ inner => ArePlain inner

def ArePlain : List Token → Prop
  | [] => True
  | token :: tokens => token.IsPlain ∧ ArePlain tokens

end

theorem arePlain_append_iff {front back : List Token} :
    ArePlain (front ++ back) ↔ ArePlain front ∧ ArePlain back := by
  induction front with
  | nil => simp [ArePlain]
  | cons token front inductionHypothesis =>
      rw [List.cons_append, ArePlain, ArePlain, inductionHypothesis, and_assoc]

end Token

open Token (IsPlain ArePlain arePlain_append_iff)

/-- A name is cut off in front of the rest, and it holds no colon. -/
theorem exists_front_of_dropName? {text rest : List Char} (read : dropName? text = some rest) :
    ∃ front, text = front ++ rest ∧ ':' ∉ front := by
  have start : isNameStart ':' = false := by decide
  have part : isNamePart ':' = false := by decide
  cases text with
  | nil => cases read
  | cons c text =>
      rw [dropName?] at read
      split at read
      · next starts =>
          cases read
          refine ⟨c :: text.takeWhile isNamePart, by simp, ?_⟩
          rw [List.mem_cons, not_or]
          constructor
          · rintro rfl
            cases start.symm.trans starts
          · intro member
            cases part.symm.trans (List.mem_takeWhile_imp member)
      · cases read

theorem wordBefore_append (front rest : List Char) :
    wordBefore (front ++ rest) rest = String.ofList front := by
  simp [wordBefore]

theorem isPlain_of_readWord? {text rest : List Char} {token : Token}
    (read : readWord? text = some (token, rest)) : token.IsPlain := by
  unfold readWord? at read
  split at read
  · next name =>
      simp only [Option.bind_eq_bind, Option.bind_eq_some_iff] at read
      obtain ⟨after, dropped, read⟩ := read
      obtain ⟨front, rfl, plain⟩ := exists_front_of_dropName? dropped
      split at read
      · cases read
      · cases read
        rw [IsPlain, ← List.cons_append, ← List.cons_append, wordBefore_append,
          String.toList_ofList]
        simpa using plain
  · obtain ⟨after, dropped, same⟩ := Option.map_eq_some_iff.1 read
    cases same
    obtain ⟨front, rfl, plain⟩ := exists_front_of_dropName? dropped
    rw [IsPlain, wordBefore_append, String.toList_ofList]
    exact plain

theorem exists_mark_of_readMark? {text rest : List Char} {token : Token}
    (read : readMark? text = some (token, rest)) : ∃ c isJoint, token = .mark c isJoint := by
  unfold readMark? at read
  split at read
  · cases read
  · split at read
    · simp only [Option.bind_eq_bind, Option.bind_eq_some_iff] at read
      obtain ⟨_, -, read⟩ := read
      split at read
      · cases read
      · split at read
        · cases read
        · cases read
          exact ⟨_, _, rfl⟩
    · cases read
      exact ⟨_, _, rfl⟩
    · cases read

theorem isPlain_of_readLeaf? {text rest : List Char} {token : Token}
    (read : readLeaf? text = some (token, rest)) : token.IsPlain := by
  rw [readLeaf?] at read
  split at read
  · cases read
    trivial
  · split at read
    · next marked =>
        cases read
        obtain ⟨c, isJoint, rfl⟩ := exists_mark_of_readMark? marked
        trivial
    · split at read
      · cases read
      · exact isPlain_of_readWord? read

theorem arePlain_documentation (isInner : Bool) (text : List Char) :
    ArePlain (documentation isInner text) := by
  cases isInner <;> simp [documentation, ArePlain, IsPlain, Token.single]

theorem arePlain_of_readDocumentation? {text rest : List Char} {comment : List Token}
    (read : readDocumentation? text = some (comment, rest)) : ArePlain comment := by
  have ended {opened : Option (Bool × List Char × List Char)}
      (read : (opened.bind fun form => if hasLoneReturn form.2.1 then none
        else some (documentation form.1 form.2.1, form.2.2)) = some (comment, rest)) :
      ArePlain comment := by
    obtain ⟨⟨isInner, inside, _⟩, -, read⟩ := Option.bind_eq_some_iff.1 read
    dsimp only at read
    split at read
    · cases read
    · cases read
      exact arePlain_documentation isInner inside
  simp only [readDocumentation?, Option.bind_eq_bind] at read
  split at read <;> exact ended read

theorem arePlain_of_readTokens? {steps : Nat} {text rest : List Char} {tokens : List Token}
    (read : readTokens? steps text = some (tokens, rest)) : ArePlain tokens := by
  induction steps generalizing text rest tokens with
  | zero => cases read
  | succ steps inductionHypothesis =>
      rw [readTokens?] at read
      dsimp only at read
      split at read
      · next comment after commented =>
          obtain ⟨others, further, same⟩ := Option.map_eq_some_iff.1 read
          cases same
          exact arePlain_append_iff.2
            ⟨arePlain_of_readDocumentation? commented, inductionHypothesis further⟩
      · split at read
        · cases read
          trivial
        · split at read
          · cases read
            trivial
          · split at read
            · simp only [Option.bind_eq_bind, Option.bind_eq_some_iff] at read
              obtain ⟨⟨inner, _⟩, inside, _, -, ⟨others, _⟩, further, same⟩ := read
              cases same
              exact ⟨inductionHypothesis inside, inductionHypothesis further⟩
            · simp only [Option.bind_eq_bind, Option.bind_eq_some_iff] at read
              obtain ⟨⟨token, _⟩, leaf, ⟨others, _⟩, further, same⟩ := read
              cases same
              exact ⟨isPlain_of_readLeaf? leaf, inductionHypothesis further⟩

/-- No word of a source text holds a colon. -/
theorem arePlain_of_ofText? {text : String} {tokens : List Token}
    (read : Token.ofText? text = some tokens) : ArePlain tokens := by
  rw [Token.ofText?] at read
  simp only [Option.bind_eq_bind, Option.bind_eq_some_iff] at read
  obtain ⟨⟨others, rest⟩, whole, read⟩ := read
  split at read
  · cases read
    exact arePlain_of_readTokens? whole
  · cases read

end FieldRules.Source
