import FieldRules.Check
import FieldRules.Proofs.Pattern.Language
import FieldRules.Proofs.Text.Cut
import Mathlib.Data.String.Basic

/-!
This file says which texts are mailboxes. The grammar has atoms, labels and words, and the check of
mail addresses passes exactly the texts of the grammar, with blanks around them.
-/

namespace FieldRules.Mail

open Computability Pattern Text

/-! ### Grammar -/

/-- The characters of atoms besides letters and digits. -/
def atomMarks : List Char :=
  "!#$%&'*+/=?^_\x60\x7b|\x7d~-".toList

structure IsAtom (text : List Char) : Prop where
  nonempty : text ≠ []
  each : ∀ c ∈ text, c.isAlphanum = true ∨ c ∈ atomMarks

/-- A label has 1 to 63 letters, digits and hyphens, and no hyphen at its ends. -/
structure IsLabel (text : List Char) : Prop where
  nonempty : text ≠ []
  short : text.length ≤ 63
  each : ∀ c ∈ text, c.isAlphanum = true ∨ c = '-'
  first : text.head? ≠ some '-'
  last : text.getLast? ≠ some '-'

/-- One part or more with a gap between any two neighbours. -/
inductive Separated (IsGap IsPart : List Char → Prop) : List Char → Prop
  | one {part : List Char} (valid : IsPart part) : Separated IsGap IsPart part
  | more {part gap rest : List Char} (valid : IsPart part) (between : IsGap gap)
      (others : Separated IsGap IsPart rest) : Separated IsGap IsPart (part ++ (gap ++ rest))

def IsDot (gap : List Char) : Prop :=
  gap = ['.']

/-- The form of an address, whatever the length of its domain. -/
inductive Addresses (domain : List Char) : List Char → Prop
  | at {localPart : List Char} (atoms : Separated IsDot IsAtom localPart)
      (labels : Separated IsDot IsLabel domain) : Addresses domain (localPart ++ '@' :: domain)

/-- The domain of an address has at most 253 characters. -/
def IsAddress (text : List Char) : Prop :=
  ∃ domain, Addresses domain text ∧ domain.length ≤ 253

/-- A backslash takes the next character, and no quote stands without one. -/
inductive Quoted : List Char → Prop
  | nil : Quoted []
  | plain {c : Char} {rest : List Char} (notQuote : c ≠ '"') (notBackslash : c ≠ '\\')
      (others : Quoted rest) : Quoted (c :: rest)
  | escaped {c : Char} {rest : List Char} (notEnd : c ≠ '\n') (others : Quoted rest) :
      Quoted ('\\' :: c :: rest)

inductive IsWord : List Char → Prop
  | atom {text : List Char} (valid : IsAtom text) : IsWord text
  | quoted {inside : List Char} (valid : Quoted inside) : IsWord ('"' :: inside ++ ['"'])

structure IsSpace (gap : List Char) : Prop where
  nonempty : gap ≠ []
  blank : Blank gap

/-- Blanks stand between the words of a display name, and may follow them. -/
inductive IsDisplayName : List Char → Prop
  | mk {words after : List Char} (valid : Separated IsSpace IsWord words) (blank : Blank after) :
      IsDisplayName (words ++ after)

/-- The text is the address, or it has the address in angle brackets. -/
inductive Holds (address : List Char) : List Char → Prop
  | bare : Holds address address
  | bracketed : Holds address ('<' :: (address ++ ['>']))
  | named {name : List Char} (valid : IsDisplayName name) :
      Holds address (name ++ '<' :: (address ++ ['>']))

/-- A mailbox holds an address. -/
def IsMailbox (text : List Char) : Prop :=
  ∃ address, IsAddress address ∧ Holds address text

/-! ### The pattern -/

def mark (c : Char) : Regex :=
  .one (.single c)

/-- The letters and digits of ASCII and the given marks. -/
def alphanumericOr (marks : List Char) : CharSet :=
  .unionOf (.range 'A' 'Z' :: .range 'a' 'z' :: .range '0' '9' :: marks.map .single)

def atomRegex : Regex :=
  .repeated (.one (alphanumericOr atomMarks)) 1 none

def labelRegexes : List Regex :=
  [.one (alphanumericOr []),
    .repeated (.sequence [.repeated (.one (alphanumericOr ['-'])) 0 (some 61),
      .one (alphanumericOr [])]) 0 (some 1)]

def addressRegex : Regex :=
  .sequence ([atomRegex, .repeated (.sequence [mark '.', atomRegex]) 0 none, mark '@'] ++
    labelRegexes ++ [.repeated (.sequence (mark '.' :: labelRegexes)) 0 none])

def quotedRegex : Regex :=
  .repeated (.alt (.one (.complement (.unionOf [.single '"', .single '\\'])))
    (.sequence [mark '\\', .one (.complement (.single '\n'))])) 0 none

def wordRegex : Regex :=
  .alt atomRegex (.sequence [mark '"', quotedRegex, mark '"'])

def nameRegex : Regex :=
  .sequence [wordRegex,
    .repeated (.sequence [.repeated (.one .spaces) 1 none, wordRegex]) 0 none,
    .repeated (.one .spaces) 0 none]

def namedRegex : Regex :=
  .sequence [.repeated nameRegex 0 (some 1), mark '<', addressRegex, mark '>']

def mailboxRegex : Regex :=
  .sequence [.look .textStart, .alt namedRegex addressRegex, .look .textEnd]

theorem compile?_ofList {text : List Char} {expression : Expression} {regex : Regex} {mode : Mode}
    (read : Expression.ofText? text = some expression)
    (meant : expression.regex? .start = some (regex, mode))
    (fits : regex.fits expression.captures = true) :
    Pattern.compile? (String.ofList text) = some ⟨String.ofList text, regex⟩ := by
  rw [Pattern.compile?, String.toList_ofList, read]
  simp [meant, fits]

/-- The pattern means what its text says. -/
theorem regex_mailbox? : mailbox? = some ⟨String.ofList mailboxPattern, mailboxRegex⟩ := by
  have read : ((Expression.ofText? mailboxPattern).bind fun expression =>
      (expression.regex? .start).map fun meaning =>
        (meaning.1, meaning.1.fits expression.captures)) = some (mailboxRegex, true) := by
    decide +kernel
  obtain ⟨expression, read, meant⟩ := Option.bind_eq_some_iff.1 read
  obtain ⟨⟨regex, mode⟩, meant, same⟩ := Option.map_eq_some_iff.1 meant
  obtain ⟨rfl, fits⟩ := Prod.mk.inj same
  exact compile?_ofList read meant fits

/-! ### Characters -/

theorem isAlphanum_iff {c : Char} :
    c.isAlphanum = true ↔ ('A' ≤ c ∧ c ≤ 'Z') ∨ ('a' ≤ c ∧ c ≤ 'z') ∨ '0' ≤ c ∧ c ≤ '9' := by
  change ((decide ('A' ≤ c ∧ c ≤ 'Z') || decide ('a' ≤ c) && decide (c ≤ 'z')) ||
    decide ('0' ≤ c) && decide (c ≤ '9')) = true ↔ _
  simp only [Bool.or_eq_true, Bool.and_eq_true, decide_eq_true_eq, or_assoc]

theorem contains_single_iff {c other : Char} :
    (CharSet.single c).contains other = true ↔ other = c := by
  rw [CharSet.single, CharSet.contains, Bool.and_eq_true, decide_eq_true_eq, decide_eq_true_eq]
  constructor
  · rintro ⟨least, most⟩
    exact Char.le_antisymm most least
  · rintro rfl
    exact ⟨Char.le_refl _, Char.le_refl _⟩

theorem contains_complement_iff {set : CharSet} {c : Char} :
    (CharSet.complement set).contains c = true ↔ ¬set.contains c = true := by
  simp [CharSet.contains]

theorem contains_alphanumericOr {marks : List Char} {c : Char} :
    (alphanumericOr marks).contains c = true ↔ c.isAlphanum = true ∨ c ∈ marks := by
  have ascii : c.isAlphanum = true ↔ (CharSet.range 'A' 'Z').contains c = true ∨
      (CharSet.range 'a' 'z').contains c = true ∨ (CharSet.range '0' '9').contains c = true := by
    simp only [isAlphanum_iff, CharSet.contains, Bool.and_eq_true, decide_eq_true_eq]
  have single : (∃ set ∈ marks.map CharSet.single, set.contains c = true) ↔ c ∈ marks := by
    simp [contains_single_iff]
  rw [alphanumericOr, CharSet.contains_unionOf_iff, ascii, ← single]
  simp only [List.exists_mem_cons_iff, or_assoc]

/-! ### Languages -/

section

variable {word : List Char}

theorem mem_mark_iff {c : Char} : word ∈ (mark c).language ↔ word = [c] := by
  constructor
  · rintro ⟨other, rfl, passed⟩
    rw [contains_single_iff.1 passed]
  · rintro rfl
    exact ⟨c, rfl, contains_single_iff.2 rfl⟩

theorem mem_atomRegex_iff : word ∈ atomRegex.language ↔ IsAtom word := by
  rw [atomRegex, Regex.mem_repeated_one_iff]
  simp only [contains_alphanumericOr]
  constructor
  · rintro ⟨enough, -, each⟩
    exact ⟨List.ne_nil_of_length_pos enough, each⟩
  · rintro ⟨nonempty, each⟩
    exact ⟨List.length_pos_iff.2 nonempty, by simp, each⟩

/-- A part and further parts behind gaps are parts with gaps between them. -/
theorem mem_separated_iff {part gap : Language Char} {IsPart IsGap : List Char → Prop}
    (valid : ∀ word, word ∈ part ↔ IsPart word) (between : ∀ word, word ∈ gap ↔ IsGap word) :
    word ∈ part * (gap * part)∗ ↔ Separated IsGap IsPart word := by
  constructor
  · intro member
    obtain ⟨first, inFirst, rest, inRest, rfl⟩ := Language.mem_mul.1 member
    obtain ⟨parts, rfl, each⟩ := Language.mem_kstar.1 inRest
    clear member inRest
    -- The part in front changes along the list, so the claim is about all of them.
    induction parts generalizing first with
    | nil => simpa using .one ((valid first).1 inFirst)
    | cons next parts inductionHypothesis =>
        rw [List.forall_mem_cons] at each
        obtain ⟨middle, inMiddle, second, inSecond, rfl⟩ := Language.mem_mul.1 each.1
        have others := inductionHypothesis second inSecond each.2
        simpa using .more ((valid first).1 inFirst) ((between middle).1 inMiddle) others
  · intro separated
    induction separated with
    | @one part isPart =>
        exact ⟨part, (valid part).2 isPart, [], Language.nil_mem_kstar _, List.append_nil part⟩
    | @more first middle rest isPart isGap _ inductionHypothesis =>
        obtain ⟨second, inSecond, others, inOthers, rfl⟩ := Language.mem_mul.1 inductionHypothesis
        refine Language.append_mem_mul ((valid first).2 isPart) ?_
        have next := Language.append_mem_mul ((between middle).2 isGap) inSecond
        rw [← List.append_assoc]
        exact mul_kstar_le_kstar (a := gap * part) (Language.append_mem_mul next inOthers)

theorem mem_alphanumeric_iff :
    word ∈ (Regex.one (alphanumericOr [])).language ↔ ∃ c, word = [c] ∧ c.isAlphanum = true := by
  refine exists_congr fun c => and_congr_right fun _ => ?_
  rw [contains_alphanumericOr]
  simp

/-- The characters between the first and the last one of a label. -/
theorem mem_labelInside_iff :
    word ∈ (Regex.repeated (.one (alphanumericOr ['-'])) 0 (some 61)).language ↔
      word.length ≤ 61 ∧ ∀ c ∈ word, c.isAlphanum = true ∨ c = '-' := by
  rw [Regex.mem_repeated_one_iff]
  simp only [contains_alphanumericOr]
  simp

theorem ne_hyphen {c : Char} (letter : c.isAlphanum = true) : c ≠ '-' := by
  rintro rfl
  exact absurd letter (by decide)

theorem isLabel_of_ends {c d : Char} {inside : List Char} (first : c.isAlphanum = true)
    (short : inside.length ≤ 61) (each : ∀ c ∈ inside, c.isAlphanum = true ∨ c = '-')
    (last : d.isAlphanum = true) : IsLabel (c :: (inside ++ [d])) where
  nonempty := List.cons_ne_nil _ _
  short := by simp; omega
  each := by
    intro other member
    simp only [List.mem_cons, List.mem_append, List.not_mem_nil, or_false] at member
    rcases member with rfl | member | rfl
    · exact .inl first
    · exact each other member
    · exact .inl last
  first := by simp [ne_hyphen first]
  last := by
    rw [← List.cons_append, List.getLast?_concat]
    simp [ne_hyphen last]

theorem mem_label_iff : word ∈ (Regex.sequence labelRegexes).language ↔ IsLabel word := by
  simp only [labelRegexes, Regex.language_sequence_cons, Regex.language_sequence_nil, mul_one,
    Regex.language_optional, Language.mem_mul, Language.mem_add, Language.mem_one,
    mem_alphanumeric_iff, mem_labelInside_iff]
  constructor
  · rintro ⟨_, ⟨c, rfl, first⟩, _, rfl | ⟨inside, ⟨short, each⟩, _, ⟨d, rfl, last⟩, rfl⟩, rfl⟩
    · have ne := ne_hyphen first
      exact ⟨by simp, by simp, by simp [first], by simp [ne], by simp [ne]⟩
    · exact isLabel_of_ends first short each last
  · rintro ⟨nonempty, short, each, first, last⟩
    obtain ⟨c, rest, rfl⟩ := List.exists_cons_of_ne_nil nonempty
    have letter : c.isAlphanum = true :=
      (each c List.mem_cons_self).resolve_right fun same => first (by rw [same, List.head?_cons])
    refine ⟨[c], ⟨c, rfl, letter⟩, rest, ?_, rfl⟩
    rcases List.eq_nil_or_concat' rest with rfl | ⟨inside, d, rfl⟩
    · exact .inl rfl
    · have final : d.isAlphanum = true :=
        (each d (by simp)).resolve_right fun same => last <| by
          rw [← List.cons_append, List.getLast?_concat, same]
      refine .inr ⟨inside, ⟨?_, fun c member => each c (by simp [member])⟩,
        [d], ⟨d, rfl, final⟩, rfl⟩
      simp only [List.length_cons, List.length_append, List.length_nil] at short
      omega

theorem mem_addressRegex_iff :
    word ∈ addressRegex.language ↔ ∃ domain, Addresses domain word := by
  have shape : addressRegex.language =
      atomRegex.language * ((mark '.').language * atomRegex.language)∗ * ((mark '@').language *
        ((Regex.sequence labelRegexes).language *
          ((mark '.').language * (Regex.sequence labelRegexes).language)∗)) := by
    simp only [addressRegex, Regex.language_sequence_append, Regex.language_sequence_cons,
      Regex.language_sequence_nil, Regex.language_star, mul_one, mul_assoc]
  have dot (gap : List Char) : gap ∈ (mark '.').language ↔ IsDot gap := mem_mark_iff
  rw [shape]
  constructor
  · intro member
    obtain ⟨localPart, inLocal, rest, inRest, rfl⟩ := Language.mem_mul.1 member
    obtain ⟨sign, inSign, domain, inDomain, rfl⟩ := Language.mem_mul.1 inRest
    rw [mem_mark_iff.1 inSign]
    exact ⟨domain, .at ((mem_separated_iff (fun _ => mem_atomRegex_iff) dot).1 inLocal)
      ((mem_separated_iff (fun _ => mem_label_iff) dot).1 inDomain)⟩
  · rintro ⟨domain, ⟨atoms, labels⟩⟩
    have inLocal := (mem_separated_iff (fun _ => mem_atomRegex_iff) dot).2 atoms
    have inDomain := (mem_separated_iff (fun _ => mem_label_iff) dot).2 labels
    exact Language.append_mem_mul inLocal
      (Language.append_mem_mul (a := ['@']) (mem_mark_iff.2 rfl) inDomain)

/-- One character inside quotes, perhaps behind a backslash. -/
theorem mem_quotedPart_iff :
    word ∈ (Regex.alt (.one (.complement (.unionOf [.single '"', .single '\\'])))
        (.sequence [mark '\\', .one (.complement (.single '\n'))])).language ↔
      (∃ c, word = [c] ∧ c ≠ '"' ∧ c ≠ '\\') ∨ ∃ c, word = ['\\', c] ∧ c ≠ '\n' := by
  have plain (c : Char) :
      (CharSet.complement (.unionOf [.single '"', .single '\\'])).contains c = true ↔
        c ≠ '"' ∧ c ≠ '\\' := by
    rw [contains_complement_iff, CharSet.contains_unionOf_iff]
    simp [contains_single_iff]
  have escaped (c : Char) :
      (CharSet.complement (.single '\n')).contains c = true ↔ c ≠ '\n' := by
    rw [contains_complement_iff, contains_single_iff]
  rw [Regex.language_alt, Language.mem_add]
  refine or_congr (exists_congr fun c => and_congr_right fun _ => plain c) ?_
  simp only [Regex.language_sequence_cons, Regex.language_sequence_nil, mul_one]
  constructor
  · rintro ⟨front, inFront, _, ⟨c, rfl, passed⟩, rfl⟩
    rw [mem_mark_iff.1 inFront]
    exact ⟨c, rfl, (escaped c).1 passed⟩
  · rintro ⟨c, rfl, notEnd⟩
    exact ⟨['\\'], mem_mark_iff.2 rfl, [c], ⟨c, rfl, (escaped c).2 notEnd⟩, rfl⟩

theorem mem_quotedRegex_iff : word ∈ quotedRegex.language ↔ Quoted word := by
  rw [quotedRegex, Regex.language_star, Language.mem_kstar]
  simp only [mem_quotedPart_iff]
  constructor
  · rintro ⟨parts, rfl, each⟩
    induction parts with
    | nil => exact .nil
    | cons part parts inductionHypothesis =>
        rw [List.forall_mem_cons] at each
        obtain ⟨⟨c, rfl, notQuote, notBackslash⟩ | ⟨c, rfl, notEnd⟩, others⟩ := each
        · exact .plain notQuote notBackslash (inductionHypothesis others)
        · exact .escaped notEnd (inductionHypothesis others)
  · intro quoted
    induction quoted with
    | nil => exact ⟨[], rfl, by simp⟩
    | plain notQuote notBackslash _ inductionHypothesis =>
        obtain ⟨parts, rfl, each⟩ := inductionHypothesis
        exact ⟨_ :: parts, rfl,
          List.forall_mem_cons.2 ⟨.inl ⟨_, rfl, notQuote, notBackslash⟩, each⟩⟩
    | escaped notEnd _ inductionHypothesis =>
        obtain ⟨parts, rfl, each⟩ := inductionHypothesis
        exact ⟨_ :: parts, rfl, List.forall_mem_cons.2 ⟨.inr ⟨_, rfl, notEnd⟩, each⟩⟩

theorem mem_wordRegex_iff : word ∈ wordRegex.language ↔ IsWord word := by
  rw [wordRegex, Regex.language_alt, Language.mem_add, mem_atomRegex_iff]
  simp only [Regex.language_sequence_cons, Regex.language_sequence_nil, mul_one]
  constructor
  · rintro (atom | member)
    · exact .atom atom
    · obtain ⟨front, inFront, rest, inRest, rfl⟩ := Language.mem_mul.1 member
      obtain ⟨inside, inInside, back, inBack, rfl⟩ := Language.mem_mul.1 inRest
      rw [mem_mark_iff.1 inFront, mem_mark_iff.1 inBack]
      exact .quoted (mem_quotedRegex_iff.1 inInside)
  · rintro (atom | quoted)
    · exact .inl atom
    · exact .inr (Language.append_mem_mul (a := ['"']) (mem_mark_iff.2 rfl)
        (Language.append_mem_mul (mem_quotedRegex_iff.2 quoted) (mem_mark_iff.2 rfl)))

theorem mem_blanks_iff {least : Nat} :
    word ∈ (Regex.repeated (.one .spaces) least none).language ↔
      least ≤ word.length ∧ Blank word := by
  rw [Regex.mem_repeated_one_iff]
  simp [Blank, CharSet.spaces, CharSet.contains, Unicode.Property.contains]

theorem mem_space_iff :
    word ∈ (Regex.repeated (.one .spaces) 1 none).language ↔ IsSpace word := by
  rw [mem_blanks_iff]
  exact ⟨fun ⟨long, blank⟩ => ⟨List.ne_nil_of_length_pos long, blank⟩,
    fun ⟨nonempty, blank⟩ => ⟨List.length_pos_iff.2 nonempty, blank⟩⟩

theorem mem_nameRegex_iff : word ∈ nameRegex.language ↔ IsDisplayName word := by
  have shape : nameRegex.language = wordRegex.language *
      ((Regex.repeated (.one .spaces) 1 none).language * wordRegex.language)∗ *
        (Regex.repeated (.one .spaces) 0 none).language := by
    simp only [nameRegex, Regex.language_sequence_cons, Regex.language_sequence_nil, mul_one,
      mul_assoc, Regex.language_star (.sequence _)]
  have words (text : List Char) : text ∈ wordRegex.language *
      ((Regex.repeated (.one .spaces) 1 none).language * wordRegex.language)∗ ↔
        Separated IsSpace IsWord text :=
    mem_separated_iff (fun _ => mem_wordRegex_iff) fun _ => mem_space_iff
  rw [shape]
  constructor
  · intro member
    obtain ⟨text, inWords, after, inBlanks, rfl⟩ := Language.mem_mul.1 member
    exact .mk ((words text).1 inWords) (mem_blanks_iff.1 inBlanks).2
  · rintro ⟨valid, blank⟩
    exact Language.append_mem_mul ((words _).2 valid) (mem_blanks_iff.2 ⟨Nat.zero_le _, blank⟩)

/-- The pattern without its ends stands for the texts that hold an address. -/
theorem mem_mailbox_iff : word ∈ (Regex.alt namedRegex addressRegex).language ↔
    ∃ address, (∃ domain, Addresses domain address) ∧ Holds address word := by
  have shape : namedRegex.language = (1 + nameRegex.language) * ((mark '<').language *
      (addressRegex.language * (mark '>').language)) := by
    simp only [namedRegex, Regex.language_sequence_cons, Regex.language_sequence_nil, mul_one,
      Regex.language_optional]
  rw [Regex.language_alt, Language.mem_add, shape]
  constructor
  · rintro (named | bare)
    · obtain ⟨name, inName, _, inBrackets, rfl⟩ := Language.mem_mul.1 named
      obtain ⟨front, inFront, _, inRest, rfl⟩ := Language.mem_mul.1 inBrackets
      obtain ⟨address, valid, back, inBack, rfl⟩ := Language.mem_mul.1 inRest
      rw [mem_mark_iff.1 inFront, mem_mark_iff.1 inBack]
      refine ⟨address, mem_addressRegex_iff.1 valid, ?_⟩
      rcases inName with absent | shown
      · rw [(Language.mem_one _).1 absent]
        exact .bracketed
      · exact .named (mem_nameRegex_iff.1 shown)
    · exact ⟨word, mem_addressRegex_iff.1 bare, .bare⟩
  · rintro ⟨address, valid, holds⟩
    have inAddress := mem_addressRegex_iff.2 valid
    have inBrackets : ['<'] ++ (address ++ ['>']) ∈
        (mark '<').language * (addressRegex.language * (mark '>').language) :=
      Language.append_mem_mul (mem_mark_iff.2 rfl)
        (Language.append_mem_mul inAddress (mem_mark_iff.2 rfl))
    cases holds with
    | bare => exact .inr inAddress
    | bracketed => exact .inl ⟨[], .inl rfl, _, inBrackets, rfl⟩
    | named shown => exact .inl ⟨_, .inr (mem_nameRegex_iff.2 shown), _, inBrackets, rfl⟩

end

/-! ### The address of a mailbox -/

section

variable {address domain : List Char}

theorem Separated.forall_mem {IsGap IsPart : List Char → Prop} {text : List Char}
    (separated : Separated IsGap IsPart text) {Passes : Char → Prop}
    (gap : ∀ word, IsGap word → ∀ c ∈ word, Passes c)
    (part : ∀ word, IsPart word → ∀ c ∈ word, Passes c) : ∀ c ∈ text, Passes c := by
  induction separated with
  | one valid => exact part _ valid
  | more valid between _ inductionHypothesis =>
      simp only [List.forall_mem_append]
      exact ⟨part _ valid, gap _ between, inductionHypothesis⟩

theorem each_of_labels (labels : Separated IsDot IsLabel domain) :
    ∀ c ∈ domain, c.isAlphanum = true ∨ c ∈ ['.', '-'] := by
  refine labels.forall_mem (fun gap dot c member => ?_) fun label valid c member => ?_
  · obtain rfl : gap = ['.'] := dot
    exact .inr (List.mem_append_left ['-'] member)
  · exact (valid.each c member).imp_right fun same => by simp [same]

theorem each_of_atoms {localPart : List Char} (atoms : Separated IsDot IsAtom localPart) :
    ∀ c ∈ localPart, c.isAlphanum = true ∨ c ∈ '.' :: atomMarks := by
  refine atoms.forall_mem (fun gap dot c member => ?_) fun atom valid c member => ?_
  · obtain rfl : gap = ['.'] := dot
    exact .inr (List.mem_append_left atomMarks member)
  · exact (valid.each c member).imp_right (List.mem_cons_of_mem _)

/-- The characters of a domain are ASCII, so it has as many bytes as characters. -/
theorem utf8ByteSize_domain (labels : Separated IsDot IsLabel domain) :
    (String.ofList domain).utf8ByteSize = domain.length := by
  have single (c : Char) (valid : c.isAlphanum = true ∨ c ∈ ['.', '-']) : c.utf8Size = 1 := by
    rcases valid with letter | sign
    · rw [isAlphanum_iff] at letter
      simp only [Char.le_def] at letter
      rw [Char.utf8Size_eq_one_iff]
      grind
    · simp only [List.mem_cons, List.not_mem_nil, or_false] at sign
      rcases sign with rfl | rfl <;> rfl
  have each := each_of_labels labels
  clear labels
  rw [String.utf8ByteSize_ofList]
  induction domain with
  | nil => rfl
  | cons c domain inductionHypothesis =>
      rw [List.forall_mem_cons] at each
      rw [String.utf8Len_cons, inductionHypothesis each.2, single c each.1, List.length_cons]

/-- The last at sign of an address stands before its domain. -/
theorem cutAtLast?_address (valid : Addresses domain address) :
    ∃ localPart, cutAtLast? '@' address = some (localPart, domain) := by
  obtain ⟨-, labels⟩ := valid
  exact ⟨_, cutAtLast?_append _ fun member => absurd (each_of_labels labels _ member) (by decide)⟩

theorem bracket_notMem_address (valid : Addresses domain address) : '<' ∉ address := by
  obtain ⟨atoms, labels⟩ := valid
  simp only [List.mem_append, List.mem_cons, not_or]
  exact ⟨fun member => absurd (each_of_atoms atoms _ member) (by decide), by decide,
    fun member => absurd (each_of_labels labels _ member) (by decide)⟩

theorem addressPart_brackets (valid : Addresses domain address) (name : List Char) :
    addressPart (name ++ '<' :: (address ++ ['>'])) = address := by
  have absent : '<' ∉ address ++ ['>'] := by simp [bracket_notMem_address valid]
  rw [addressPart, cutAtLast?_append name absent]
  exact List.dropLast_concat

/-- A text holds one address only. -/
theorem addressPart_of_holds {text : List Char} (valid : Addresses domain address)
    (holds : Holds address text) : addressPart text = address := by
  cases holds with
  | bare => rw [addressPart, cutAtLast?_eq_none_iff.2 (bracket_notMem_address valid)]
  | bracketed => exact addressPart_brackets valid []
  | named => exact addressPart_brackets valid _

theorem isMatch_mailbox? {pattern : Pattern} (compiled : mailbox? = some pattern)
    {text : List Char} : pattern.isMatch (String.ofList text) = true ↔
      ∃ address, (∃ domain, Addresses domain address) ∧ Holds address text := by
  rw [regex_mailbox?, Option.some_inj] at compiled
  subst compiled
  rw [Pattern.isMatch, String.toList_ofList, ← mem_mailbox_iff]
  exact Regex.matchesIn_anchored_iff (by decide)

theorem mailboxAddress?_of_holds {input : String} (valid : Addresses domain address)
    (holds : Holds address (trim input.toList)) : mailboxAddress? input =
      if domain.length ≤ 253 then some (String.ofList address) else none := by
  obtain ⟨pattern, compiled⟩ : ∃ pattern, mailbox? = some pattern := ⟨_, regex_mailbox?⟩
  have found := (isMatch_mailbox? compiled).2 ⟨address, ⟨domain, valid⟩, holds⟩
  obtain ⟨localPart, cut⟩ := cutAtLast?_address valid
  have labels : Separated IsDot IsLabel domain := by
    obtain ⟨-, labels⟩ := valid
    exact labels
  simp [mailboxAddress?, compiled, found, addressPart_of_holds valid holds, cut,
    utf8ByteSize_domain labels, domainLimit]

theorem isMailbox_iff {input : String} :
    isMailbox input = true ↔ IsMailbox (trim input.toList) := by
  constructor
  · intro passed
    obtain ⟨pattern, compiled⟩ : ∃ pattern, mailbox? = some pattern := ⟨_, regex_mailbox?⟩
    have found : pattern.isMatch (String.ofList (trim input.toList)) = true := by
      by_contra missed
      rw [Bool.not_eq_true] at missed
      simp [isMailbox, mailboxAddress?, compiled, missed] at passed
    obtain ⟨address, ⟨domain, valid⟩, holds⟩ := (isMatch_mailbox? compiled).1 found
    rw [isMailbox, mailboxAddress?_of_holds valid holds] at passed
    exact ⟨address, ⟨domain, valid, by_contra fun long => by simp [long] at passed⟩, holds⟩
  · rintro ⟨address, ⟨domain, valid, short⟩, holds⟩
    rw [isMailbox, mailboxAddress?_of_holds valid holds, if_pos short, Option.isSome_some]

end

end FieldRules.Mail

namespace FieldRules

/-- The check of mail addresses passes the mailboxes of the grammar with blanks around them. -/
theorem email_accepts_mailboxes (field input : String) : Check.email field input = none ↔
    ∃ text, Text.Tight text ∧ Text.Around text input.toList ∧ Mail.IsMailbox text := by
  have passes : Check.email field input = none ↔ Mail.isMailbox input = true := by
    simp [Check.email, Check.outcome]
  rw [passes, Mail.isMailbox_iff]
  constructor
  · exact fun mailbox => ⟨_, Text.tight_trim _, Text.around_trim _, mailbox⟩
  · rintro ⟨text, tight, around, mailbox⟩
    rwa [around.trim tight]

end FieldRules
