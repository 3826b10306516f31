import FieldRules.Proofs.Pattern.Matching
import Mathlib.Computability.Language

/-!
This file gives the language of a regular expression without assertions. Such an expression matches
a part of a text by the characters of the part alone.
-/

namespace FieldRules.Pattern

open Computability

namespace Regex

/-- The texts that a regular expression without assertions matches. -/
def language : Regex → Language Char
  | .empty => 1
  | .one set => {word | ∃ c, word = [c] ∧ set.contains c = true}
  | .look _ => 1
  | .seq front back => front.language * back.language
  | .alt left right => left.language + right.language
  | .repeated inner least most =>
      {word | ∃ further, (∀ greatest, most = some greatest → further ≤ greatest - least) ∧
        word ∈ inner.language ^ (least + further)}

/-- A regular expression is plain if it has no assertions. -/
def isPlain : Regex → Bool
  | .empty => true
  | .one _ => true
  | .look _ => false
  | .seq front back => front.isPlain && back.isPlain
  | .alt left right => left.isPlain && right.isPlain
  | .repeated inner _ _ => inner.isPlain

end Regex

/-- A match of the language stands in the text between the two positions. -/
def Stands (text : List Char) (language : Language Char) (first last : Nat) : Prop :=
  ∃ word ∈ language, word <+: text.drop first ∧ last = first + word.length

section

variable {text : List Char} {first last : Nat} {language other : Language Char}

theorem stands_one_iff : Stands text 1 first last ↔ last = first := by
  simp [Stands, Language.mem_one]

theorem stands_mul_iff : Stands text (language * other) first last ↔
    ∃ next, Stands text language first next ∧ Stands text other next last := by
  constructor
  · rintro ⟨_, member, begins, rfl⟩
    obtain ⟨front, inFront, back, inBack, rfl⟩ := Language.mem_mul.1 member
    obtain ⟨rest, split⟩ := begins
    refine ⟨first + front.length, ⟨front, inFront, ⟨back ++ rest, by simp [← split]⟩, rfl⟩,
      back, inBack, ⟨rest, ?_⟩, by simp [Nat.add_assoc]⟩
    rw [← List.drop_drop, ← split, List.append_assoc, List.drop_left]
  · rintro ⟨_, ⟨front, inFront, ⟨rest, split⟩, rfl⟩, back, inBack, ⟨after, further⟩, rfl⟩
    rw [← List.drop_drop, ← split, List.drop_left] at further
    refine ⟨front ++ back, Language.append_mem_mul inFront inBack, ⟨after, ?_⟩,
      by simp [Nat.add_assoc]⟩
    rw [List.append_assoc, further, split]

theorem stands_add_iff : Stands text (language + other) first last ↔
    Stands text language first last ∨ Stands text other first last := by
  simp only [Stands, Language.mem_add, or_and_right, exists_or]

theorem steps_stands_iff {count : Nat} : Steps (Stands text language) count first last ↔
    Stands text (language ^ count) first last := by
  induction count generalizing first with
  | zero => rw [steps_zero_iff, pow_zero, stands_one_iff]
  | succ count inductionHypothesis =>
      simp only [steps_succ_iff, inductionHypothesis, pow_succ', stands_mul_iff]

end

theorem leads_one_iff {set : CharSet} {text : List Char} {first last : Nat} :
    (Regex.one set).Leads text first last ↔ Stands text (Regex.one set).language first last := by
  constructor
  · rintro ⟨rfl, c, found, passed⟩
    refine ⟨[c], ⟨c, rfl, passed⟩, ?_, rfl⟩
    obtain ⟨inside, rfl⟩ := List.getElem?_eq_some_iff.1 found
    rw [List.drop_eq_getElem_cons inside]
    exact ⟨_, rfl⟩
  · rintro ⟨_, ⟨c, rfl, passed⟩, ⟨rest, split⟩, rfl⟩
    refine ⟨rfl, c, ?_, passed⟩
    rw [← List.head?_drop, ← split]
    rfl

/-- A plain regular expression leads over the words of its language. -/
theorem leads_eq_stands {regex : Regex} (plain : regex.isPlain = true) (text : List Char) :
    regex.Leads text = Stands text regex.language := by
  induction regex with
  | empty =>
      funext first last
      exact propext stands_one_iff.symm
  | one set =>
      funext first last
      exact propext leads_one_iff
  | look assertion => cases plain
  | seq front back ofFront ofBack =>
      rw [Regex.isPlain, Bool.and_eq_true] at plain
      funext first last
      rw [Regex.Leads, ofFront plain.1, ofBack plain.2, Regex.language, stands_mul_iff]
  | alt left right ofLeft ofRight =>
      rw [Regex.isPlain, Bool.and_eq_true] at plain
      funext first last
      rw [Regex.Leads, ofLeft plain.1, ofRight plain.2, Regex.language, stands_add_iff]
  | repeated inner least most ofInner =>
      funext first last
      rw [Regex.Leads, ofInner plain]
      simp only [steps_stands_iff, Stands, Regex.language]
      refine propext ⟨?_, ?_⟩
      · rintro ⟨further, bound, word, member, begins, ends⟩
        exact ⟨word, ⟨further, bound, member⟩, begins, ends⟩
      · rintro ⟨word, ⟨further, bound, member⟩, begins, ends⟩
        exact ⟨further, bound, word, member, begins, ends⟩

/-! ### Sequences and repetitions -/

namespace Regex

/-- The regular expressions match one after the other. -/
def sequence (parts : List Regex) : Regex :=
  parts.foldr .seq .empty

@[simp]
theorem language_sequence_nil : (sequence []).language = 1 := rfl

@[simp]
theorem language_sequence_cons (part : Regex) (parts : List Regex) :
    (sequence (part :: parts)).language = part.language * (sequence parts).language := rfl

@[simp]
theorem language_sequence_append (parts others : List Regex) :
    (sequence (parts ++ others)).language =
      (sequence parts).language * (sequence others).language := by
  induction parts with
  | nil => simp
  | cons part parts inductionHypothesis => simp [inductionHypothesis, mul_assoc]

@[simp]
theorem language_alt (left right : Regex) :
    (alt left right).language = left.language + right.language := rfl

theorem language_star (inner : Regex) :
    (repeated inner 0 none).language = inner.language∗ := by
  ext word
  rw [Language.kstar_eq_iSup_pow, Language.mem_iSup]
  constructor
  · rintro ⟨further, -, member⟩
    exact ⟨0 + further, member⟩
  · rintro ⟨further, member⟩
    exact ⟨further, by simp, by rwa [Nat.zero_add]⟩

theorem language_optional (inner : Regex) :
    (repeated inner 0 (some 1)).language = 1 + inner.language := by
  ext word
  rw [Language.mem_add]
  constructor
  · rintro ⟨further, bound, member⟩
    rw [Nat.zero_add] at member
    have few : further = 0 ∨ further = 1 := by
      have := bound 1 rfl
      omega
    rcases few with rfl | rfl
    · exact .inl (by rwa [pow_zero] at member)
    · exact .inr (by rwa [pow_one] at member)
  · rintro (member | member)
    · exact ⟨0, by simp, by rwa [Nat.zero_add, pow_zero]⟩
    · exact ⟨1, by simp, by rwa [Nat.zero_add, pow_one]⟩

/-- So many characters of a set follow each other. -/
theorem mem_one_pow_iff {set : CharSet} {count : Nat} {word : List Char} :
    word ∈ (one set).language ^ count ↔
      word.length = count ∧ ∀ c ∈ word, set.contains c = true := by
  induction count generalizing word with
  | zero =>
      rw [pow_zero, Language.mem_one, List.length_eq_zero_iff]
      constructor
      · rintro rfl
        simp
      · exact And.left
  | succ count inductionHypothesis =>
      rw [pow_succ', Language.mem_mul]
      constructor
      · rintro ⟨_, ⟨c, rfl, passed⟩, rest, member, rfl⟩
        obtain ⟨length, each⟩ := inductionHypothesis.1 member
        exact ⟨by simp [length], by simpa using ⟨passed, each⟩⟩
      · rintro ⟨length, each⟩
        obtain ⟨c, rest, rfl⟩ := List.exists_cons_of_length_eq_add_one length
        rw [List.forall_mem_cons] at each
        exact ⟨[c], ⟨c, rfl, each.1⟩, rest,
          inductionHypothesis.2 ⟨by simpa using length, each.2⟩, rfl⟩

/-- A repeated set matches texts of its characters with a fitting length. -/
theorem mem_repeated_one_iff {set : CharSet} {least : Nat} {most : Option Nat} {word : List Char} :
    word ∈ (repeated (one set) least most).language ↔
      least ≤ word.length ∧
        (∀ greatest, most = some greatest → word.length - least ≤ greatest - least) ∧
        ∀ c ∈ word, set.contains c = true := by
  constructor
  · rintro ⟨further, bound, member⟩
    obtain ⟨length, each⟩ := mem_one_pow_iff.1 member
    refine ⟨by omega, fun greatest known => ?_, each⟩
    have := bound greatest known
    omega
  · rintro ⟨enough, bound, each⟩
    exact ⟨word.length - least, bound, mem_one_pow_iff.2 ⟨by omega, each⟩⟩

/-- An expression that stands between the two ends of a text matches the whole text. -/
theorem matchesIn_anchored_iff {regex : Regex} (plain : regex.isPlain = true) {text : List Char} :
    (sequence [.look .textStart, regex, .look .textEnd]).matchesIn text = true ↔
      text ∈ regex.language := by
  rw [matchesIn_iff]
  simp only [sequence, List.foldr, Leads, leads_eq_stands plain, Assertion.holds,
    Option.isNone_iff_eq_none, List.getLast?_eq_none_iff, List.getElem?_eq_none_iff]
  constructor
  · rintro ⟨_, _, inside, first, ⟨rfl, starts⟩, _, ⟨word, member, begins, rfl⟩, _, ⟨rfl, ends⟩, rfl⟩
    have start : first = 0 := by
      have : (text.take first).length = 0 := by rw [starts, List.length_nil]
      rw [List.length_take] at this
      omega
    subst start
    rw [List.drop_zero] at begins
    rw [Nat.zero_add] at ends
    rwa [← begins.eq_of_length_le ends]
  · intro member
    exact ⟨0, _, Nat.zero_le _, 0, ⟨rfl, rfl⟩, _, ⟨text, member, List.prefix_rfl, rfl⟩, _,
      ⟨rfl, by simp⟩, rfl⟩

end Regex

end FieldRules.Pattern
