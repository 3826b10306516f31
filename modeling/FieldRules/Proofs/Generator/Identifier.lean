import FieldRules.Proofs.Generator.Call
import FieldRules.Proofs.Generator.Grouping
import FieldRules.Source.Literal

/-!
This file compares the names that the generator writes with the identifiers of the language. Both
are given by a class of first characters and a class of further ones. The two sides agree on a
character if they put it into the same classes, and they do so for all of ASCII.
-/

namespace FieldRules

/-! ### Tables of code points -/

namespace Unicode

/-- The set that the characters of a table give. -/
def CodePointSet.ofChars (chars : List Char) : CodePointSet :=
  ⟨(((Text.pieces (fun c => c = ' ' || c = '\n') chars).filter fun word => !word.isEmpty).map
    fun word => (takeRun word).1).toArray⟩

/-- The kernel finds the characters of a list faster than those of a text. -/
theorem CodePointSet.contains_ofText {chars : List Char} {c : Char} {answer : Bool}
    (found : (ofChars chars).contains c = answer) :
    (ofText (String.ofList chars)).contains c = answer := by
  rw [ofText, tableWords, String.toList_ofList]
  exact found

/-- The tables from which the parts of identifiers are taken. -/
def identifierTables : List CodePointSet :=
  [GeneralCategory.uppercaseLetterPoints, GeneralCategory.lowercaseLetterPoints,
    GeneralCategory.titlecaseLetterPoints, GeneralCategory.modifierLetterPoints,
    GeneralCategory.otherLetterPoints, GeneralCategory.letterNumberPoints, otherIdentifierStart,
    GeneralCategory.nonspacingMarkPoints, GeneralCategory.spacingMarkPoints,
    GeneralCategory.decimalNumberPoints, GeneralCategory.connectorPunctuationPoints,
    otherIdentifierContinue]

theorem isIdentifierContinue_eq_false {c : Char}
    (absent : ∀ set ∈ identifierTables, set.contains c = false) :
    isIdentifierContinue c = false := by
  simp only [identifierTables, List.forall_mem_cons] at absent
  simp [isIdentifierContinue, isIdentifierStart, isLetter, GeneralCategory.contains,
    GeneralCategory.members, absent]

end Unicode

namespace Identifier

open Emitted (isNamePart)

/-! ### Names and identifiers -/

/-- The first character and the further ones are of the given classes. -/
def HasForm (starts parts : Char → Bool) (name : String) : Prop :=
  ∃ first rest, name.toList = first :: rest ∧ starts first = true ∧ ∀ c ∈ rest, parts c = true

theorem hasForm_pair_iff {starts parts : Char → Bool} {first second : Char} :
    HasForm starts parts (String.ofList [first, second]) ↔
      starts first = true ∧ parts second = true := by
  rw [HasForm, String.toList_ofList]
  constructor
  · rintro ⟨_, _, same, start, rest⟩
    cases same
    exact ⟨start, rest second List.mem_cons_self⟩
  · rintro ⟨start, part⟩
    exact ⟨first, [second], rfl, start, List.forall_mem_singleton.2 part⟩

/-- The identifiers of the language, with the keywords. -/
def IsGrammatical (name : String) : Prop :=
  HasForm Source.isNameStart Source.isNamePart name

/-- The generator takes each letter as the start of a name. -/
def isStart (c : Char) : Bool :=
  c == '_' || Unicode.isAlphabetic c

/-- These words have a meaning in the grammar of the language. -/
def strictKeywords : List String :=
  ["as", "async", "await", "break", "const", "continue", "crate", "dyn", "else", "enum", "extern",
    "false", "fn", "for", "if", "impl", "in", "let", "loop", "match", "mod", "move", "mut", "pub",
    "ref", "return", "self", "Self", "static", "struct", "super", "trait", "true", "type", "unsafe",
    "use", "where", "while"]

/-- These words are kept for later. -/
def reservedKeywords : List String :=
  ["abstract", "become", "box", "do", "final", "gen", "macro", "override", "priv", "try", "typeof",
    "unsized", "virtual", "yield"]

def IsKeyword (name : String) : Prop :=
  name ∈ strictKeywords ∨ name ∈ reservedKeywords

/-- Only keywords have a spelling other than themselves. -/
inductive Spells (name : String) : String → Prop
  | plain (other : ¬IsKeyword name) : Spells name name
  | raw (keyword : IsKeyword name) : Spells name ("r#" ++ name)

theorem hasNameForm_iff {name : String} :
    hasNameForm name.toList = true ↔ HasForm isStart isNamePart name := by
  rw [HasForm]
  cases name.toList with
  | nil => simp [hasNameForm]
  | cons first rest =>
      rw [hasNameForm, Bool.and_eq_true, List.all_eq_true]
      constructor
      · rintro ⟨start, parts⟩
        exact ⟨first, rest, rfl, start, parts⟩
      · rintro ⟨_, _, same, start, parts⟩
        cases same
        exact ⟨start, parts⟩

/-- The keywords that have a raw spelling are all but four. -/
theorem mem_keywords_iff {name : String} (speakable : name ∉ unspeakable) :
    name ∈ keywords ↔ IsKeyword name := by
  have known : ∀ word ∈ keywords, word ∈ strictKeywords ∨ word ∈ reservedKeywords := by decide
  have strict : ∀ word ∈ strictKeywords, word ∈ unspeakable ∨ word ∈ keywords := by decide
  have reserved : ∀ word ∈ reservedKeywords, word ∈ keywords := by decide
  constructor
  · exact known name
  · rintro (member | member)
    · exact (strict name member).resolve_left speakable
    · exact reserved name member

theorem spelling?_eq_some_iff {name spelling : String} :
    spelling? name = some spelling ↔
      HasForm isStart isNamePart name ∧ name ∉ unspeakable ∧ Spells name spelling := by
  rw [spelling?, ← hasNameForm_iff]
  split
  · next refused =>
      constructor
      · intro absent
        cases absent
      · rintro ⟨form, speakable, -⟩
        simp [form, speakable] at refused
  · next accepted =>
      simp only [Bool.or_eq_true, Bool.not_eq_true', List.contains_iff_mem, not_or,
        Bool.not_eq_false] at accepted
      obtain ⟨form, speakable⟩ := accepted
      have keyword := mem_keywords_iff speakable
      split
      · next member =>
          rw [List.contains_iff_mem, keyword] at member
          constructor
          · rintro ⟨⟩
            exact ⟨form, speakable, .raw member⟩
          · rintro ⟨-, -, plain | raw⟩
            · contradiction
            · rfl
      · next absent =>
          rw [List.contains_iff_mem, keyword] at absent
          constructor
          · rintro ⟨⟩
            exact ⟨form, speakable, .plain absent⟩
          · rintro ⟨-, -, plain | raw⟩
            · rfl
            · contradiction

theorem isSpelled_iff {name : String} :
    IsSpelled name ↔ HasForm isStart isNamePart name ∧ name ∉ unspeakable := by
  simp only [IsSpelled, spelling?_eq_some_iff]
  constructor
  · rintro ⟨_, form, speakable, -⟩
    exact ⟨form, speakable⟩
  · rintro ⟨form, speakable⟩
    by_cases keyword : IsKeyword name
    · exact ⟨_, form, speakable, .raw keyword⟩
    · exact ⟨_, form, speakable, .plain keyword⟩

/-! ### Characters -/

/-- The generator and the language put the character into the same classes. -/
structure IsAlike (c : Char) : Prop where
  starts : isStart c = Source.isNameStart c
  parts : isNamePart c = Source.isNamePart c

/-- A name of characters that are alike is spelled if it is an identifier. -/
theorem isSpelled_iff_of_isAlike {name : String} (alike : ∀ c ∈ name.toList, IsAlike c) :
    IsSpelled name ↔ IsGrammatical name ∧ name ∉ unspeakable := by
  rw [isSpelled_iff, IsGrammatical]
  refine and_congr_left fun _ => exists_congr fun first => exists_congr fun rest => ?_
  refine and_congr_right fun shown => ?_
  rw [shown] at alike
  rw [(alike first List.mem_cons_self).starts]
  refine and_congr_right fun _ => forall₂_congr fun c member => ?_
  rw [(alike c (List.mem_cons_of_mem _ member)).parts]

theorem isAlike_of_isAscii {c : Char} (ascii : Text.isAscii c = true) : IsAlike c := by
  constructor
  · rw [isStart, Source.isNameStart, Unicode.isAlphabetic, Unicode.isStableIdentifierStart,
      if_pos ascii, if_pos ascii]
  · rw [isNamePart, Source.isNamePart, Unicode.isAlphanumeric,
      Unicode.isStableIdentifierContinue, if_pos ascii, if_pos ascii, Bool.or_comm]

/-- No normalization changes the letter, and the syntax does not reserve it. -/
structure IsStableLetter (c : Char) : Prop where
  letter : Unicode.isLetter c = true
  other : c ≠ '\u2e2f'
  start : Unicode.unstableIdentifierStart.contains c = false
  part : Unicode.unstableIdentifierContinue.contains c = false

theorem IsStableLetter.isAlike {c : Char} (stable : IsStableLetter c) : IsAlike c := by
  obtain ⟨letter, other, start, part⟩ := stable
  cases ascii : Text.isAscii c with
  | true => exact isAlike_of_isAscii ascii
  | false =>
      constructor
      · simp [isStart, Source.isNameStart, Unicode.isAlphabetic, Unicode.isStableIdentifierStart,
          Unicode.isIdentifierStart, ascii, letter, other, start]
      · simp [isNamePart, Source.isNamePart, Unicode.isAlphanumeric, Unicode.isAlphabetic,
          Unicode.isStableIdentifierContinue, Unicode.isIdentifierContinue,
          Unicode.isIdentifierStart, ascii, letter, other, part]

/-- No unspeakable word has a character outside of ASCII. -/
theorem not_mem_unspeakable {name : String} {c : Char} (member : c ∈ name.toList)
    (foreign : Text.isAscii c = false) : name ∉ unspeakable := by
  have ascii : ∀ word ∈ unspeakable, word.toList.all Text.isAscii = true := by decide
  intro listed
  rw [List.all_eq_true.1 (ascii name listed) c member] at foreign
  cases foreign

/-- The generator and the language agree on the names of such a character. -/
theorem isAlike_iff {c : Char} :
    IsAlike c ↔ ∀ name : String, (∀ x ∈ name.toList, Text.isAscii x = true ∨ x = c) →
      (IsSpelled name ↔ IsGrammatical name ∧ name ∉ unspeakable) := by
  constructor
  · intro alike name known
    refine isSpelled_iff_of_isAlike fun x member => ?_
    rcases known x member with ascii | rfl
    · exact isAlike_of_isAscii ascii
    · exact alike
  · intro agrees
    cases ascii : Text.isAscii c with
    | true => exact isAlike_of_isAscii ascii
    | false =>
        have pair (first second : Char) (foreign : first = c ∨ second = c)
            (known : ∀ x ∈ [first, second], Text.isAscii x = true ∨ x = c) :
            isStart first = true ∧ isNamePart second = true ↔
              Source.isNameStart first = true ∧ Source.isNamePart second = true := by
          have speakable : String.ofList [first, second] ∉ unspeakable := by
            refine not_mem_unspeakable (c := c) ?_ ascii
            rw [String.toList_ofList]
            rcases foreign with rfl | rfl <;> simp
          have agreed := agrees (String.ofList [first, second]) (by rwa [String.toList_ofList])
          rwa [isSpelled_iff, IsGrammatical, and_iff_left speakable, and_iff_left speakable,
            hasForm_pair_iff, hasForm_pair_iff] at agreed
        -- One name has the character at its start, and one has it behind another letter.
        have first := pair c 'a' (.inl rfl) (by simp [Text.isAscii])
        have second := pair 'a' c (.inr rfl) (by simp [Text.isAscii])
        have letter : IsAlike 'a' := isAlike_of_isAscii rfl
        have start : isStart 'a' = true := by decide
        have part : isNamePart 'a' = true := by decide
        rw [← letter.parts, part, and_iff_left rfl, and_iff_left rfl] at first
        rw [← letter.starts, start, and_iff_right rfl, and_iff_right rfl] at second
        exact ⟨Bool.eq_iff_iff.2 first, Bool.eq_iff_iff.2 second⟩

end Identifier

open Identifier (IsSpelled IsGrammatical HasForm IsAlike IsStableLetter Spells)

/-! ### Texts -/

/-- The part stands in the text. -/
def ContainsText (text part : String) : Prop :=
  ∃ before after, text = before ++ part ++ after

theorem ContainsText.trans {text part piece : String} (outer : ContainsText text part)
    (inner : ContainsText part piece) : ContainsText text piece := by
  obtain ⟨before, after, rfl⟩ := outer
  obtain ⟨front, back, rfl⟩ := inner
  exact ⟨before ++ front, back ++ after, by simp only [String.append_assoc]⟩

theorem containsText_enclosed (before part after : String) :
    ContainsText (before ++ part ++ after) part :=
  ⟨before, after, rfl⟩

theorem containsText_append_left {text part : String} (before : String)
    (inner : ContainsText text part) : ContainsText (before ++ text) part := by
  obtain ⟨front, back, rfl⟩ := inner
  exact ⟨before ++ front, back, by simp only [String.append_assoc]⟩

theorem containsText_ofLines {line : String} {lines : List String} (member : line ∈ lines) :
    ContainsText (Plan.ofLines lines) line := by
  obtain ⟨before, after, rfl⟩ := List.append_of_mem member
  exact ⟨Plan.ofLines before, "\n" ++ Plan.ofLines after, by
    simp [Plan.ofLines, String.append_assoc]⟩

namespace Statement

variable {runtimePath record field name value text : String} {test : FieldCheck}
  {statement : Statement} {error : CompileError}

theorem spelling_of_fieldValue (written : fieldValue record name = .ok value) :
    ∃ spelling, Identifier.spelling? name = some spelling ∧ value = "self." ++ spelling := by
  rw [fieldValue] at written
  split at written
  · next spelling spelled => exact ⟨spelling, spelled, (Except.ok.inj written).symm⟩
  · cases written

/-- A call is written with all its arguments. -/
theorem containsText_call (function : String) {argument : String} {arguments : List String}
    (member : argument ∈ arguments) : ContainsText (call function arguments) argument := by
  obtain ⟨before, after, joined⟩ := exists_intercalate_eq_append ", " member
  rw [call, joined]
  exact ⟨function ++ "(" ++ before, after ++ ")", by simp only [String.append_assoc]⟩

/-- A comparison is written with the values of its field and of its sibling. -/
theorem checkCall_equalsField_ok_iff {target : String} :
    checkCall record field value (.equalsField target) = .ok text ↔
      ∃ other, fieldValue record target = .ok other ∧ text = call "is_equal_to"
        [Text.quoted field, Text.quoted target, "&" ++ value, "&" ++ other] := by
  rw [checkCall]
  cases fieldValue record target <;> simp [Except.map, eq_comm]

theorem checkCall_equalsField_error {target : String}
    (failed : checkCall record field value (.equalsField target) = .error error) :
    fieldValue record target = .error error := by
  rw [checkCall] at failed
  cases sibling : fieldValue record target with
  | ok other => simp [sibling, Except.map] at failed
  | error error => simpa [sibling, Except.map] using failed

theorem containsText_borrowed (value : String) : ContainsText ("&" ++ value) value :=
  containsText_append_left _ ⟨"", "", by simp⟩

/-- The call of a check is written with the value of its field. -/
theorem containsText_checkCall (written : checkCall record field value test = .ok text) :
    ContainsText text value := by
  cases test with
  | greaterThan bound | lessThan bound =>
      cases written
      exact containsText_call _ (by simp)
  | equalsField target =>
      obtain ⟨other, -, rfl⟩ := checkCall_equalsField_ok_iff.1 written
      exact (containsText_call _ (by simp)).trans (containsText_borrowed value)
  | _ =>
      cases written
      exact (containsText_call _ (by simp)).trans (containsText_borrowed value)

/-- The text of a statement writes each of its names in its spelling. -/
theorem writes_name (written : statement.text runtimePath record = .ok text)
    (member : name ∈ statement.names) :
    ∃ spelling, Identifier.spelling? name = some spelling ∧
      ContainsText text ("self." ++ spelling) := by
  suffices valued : ∃ value, fieldValue record name = .ok value ∧ ContainsText text value by
    obtain ⟨value, ofName, contained⟩ := valued
    obtain ⟨spelling, spelled, rfl⟩ := spelling_of_fieldValue ofName
    exact ⟨spelling, spelled, contained⟩
  rcases Emitted.text_cases written with
    ⟨field, value, rfl, ofField, rfl⟩ | ⟨field, test, value, check, rfl, ofField, checked, rfl⟩
  · rcases mem_names_iff.1 member with rfl | ⟨_, compares⟩
    · exact ⟨value, ofField, containsText_enclosed _ _ _⟩
    · cases compares
  · have enclosed := containsText_enclosed ("result.push(" ++ runtimePath ++ "::validators::")
      check ");"
    rcases mem_names_iff.1 member with rfl | ⟨_, compares⟩
    · exact ⟨value, ofField, enclosed.trans (containsText_checkCall checked)⟩
    · cases compares
      obtain ⟨other, ofSibling, rfl⟩ := checkCall_equalsField_ok_iff.1 checked
      refine ⟨other, ofSibling, enclosed.trans ?_⟩
      exact (containsText_call _ (by simp)).trans (containsText_borrowed other)

/-- A statement without a text blames one of its names, which is not spelled. -/
theorem exists_name_of_text_error (failed : statement.text runtimePath record = .error error) :
    ∃ name ∈ statement.names, ¬IsSpelled name ∧ error = .invalidIdentifier record name := by
  have blamed {name : String} {error : CompileError}
      (failed : fieldValue record name = .error error) :
      ¬IsSpelled name ∧ error = .invalidIdentifier record name := by
    rw [fieldValue] at failed
    split at failed
    · cases failed
    · next unspelled =>
        refine ⟨?_, (Except.error.inj failed).symm⟩
        rintro ⟨spelling, spelled⟩
        cases unspelled.symm.trans spelled
  rw [Statement.text] at failed
  split at failed
  · next ofField =>
      cases failed
      exact ⟨_, mem_names_iff.2 (.inl rfl), blamed ofField⟩
  · next value ofField =>
      cases statement with
      | append field => cases failed
      | push field test =>
          dsimp only at failed
          cases test with
          | equalsField target =>
              cases called : checkCall record field value (.equalsField target) with
              | ok call => simp [called, Except.map] at failed
              | error other =>
                  simp only [called, Except.map, Except.error.injEq] at failed
                  subst failed
                  have sibling := checkCall_equalsField_error called
                  exact ⟨target, mem_names_iff.2 (.inr ⟨field, rfl⟩), blamed sibling⟩
          | _ => cases failed

end Statement

namespace Plan

variable {config : GeneratorConfig} {record : String} {current : Option String} {steps : List Step}
  {plan : Plan} {error : CompileError}

/-- The statement of each step is one of the lines. -/
theorem exists_line_of_stepLines {lines : List String}
    (written : stepLines config record current steps = .ok lines) {step : Step}
    (member : step ∈ steps) :
    ∃ line ∈ lines, step.statement.text config.runtimePath record = .ok line := by
  induction steps generalizing current lines with
  | nil => cases member
  | cons first steps inductionHypothesis =>
      rw [stepLines] at written
      split at written
      · cases written
      · next statement ofFirst =>
          split at written
          · cases written
          · next others rest =>
              have kept : statement :: others <:+ lines := by
                split at written
                · cases written
                  exact List.suffix_rfl
                · cases written
                  exact ⟨["", "// Field: " ++ first.site.field], rfl⟩
              rcases List.mem_cons.1 member with rfl | later
              · exact ⟨statement, kept.subset List.mem_cons_self, ofFirst⟩
              · obtain ⟨line, inside, ofStep⟩ := inductionHypothesis rest later
                exact ⟨line, kept.subset (List.mem_cons_of_mem _ inside), ofStep⟩

theorem exists_name_of_stepLines_error
    (failed : stepLines config record current steps = .error error) :
    ∃ step ∈ steps, ∃ name ∈ step.statement.names,
      ¬IsSpelled name ∧ error = .invalidIdentifier record name := by
  induction steps generalizing current with
  | nil => cases failed
  | cons first steps inductionHypothesis =>
      rw [stepLines] at failed
      split at failed
      · next ofFirst =>
          cases failed
          exact ⟨first, List.mem_cons_self, Statement.exists_name_of_text_error ofFirst⟩
      · split at failed
        · next rest =>
            cases failed
            obtain ⟨step, member, blamed⟩ := inductionHypothesis rest
            exact ⟨step, List.mem_cons_of_mem _ member, blamed⟩
        · split at failed <;> cases failed

/-- An implementation names its record, and its body names the fields of steps. -/
structure WritesNames (plan : Plan) (config : GeneratorConfig) (text body : String) : Prop where
  record : ∃ spelling, Identifier.spelling? plan.record = some spelling ∧
    ("impl " ++ config.runtimePath ++ "::Validate for " ++ spelling ++ " \x7b\n").toList <+:
      text.toList
  fields : ∀ step ∈ plan.steps, ∀ name ∈ step.statement.names, ∃ spelling,
    Identifier.spelling? name = some spelling ∧ ContainsText body ("self." ++ spelling)

/-- A body writes the text of each step. -/
theorem containsText_body {body : String} (written : plan.body config = .ok body) {step : Step}
    (member : step ∈ plan.steps) :
    ∃ text, step.statement.text config.runtimePath plan.record = .ok text ∧
      ContainsText body text := by
  rw [Plan.body] at written
  split at written
  · cases written
  · next lines ofSteps =>
      cases written
      obtain ⟨line, inside, ofStep⟩ := exists_line_of_stepLines ofSteps member
      exact ⟨line, ofStep, containsText_ofLines (by simp [inside])⟩

theorem writesNames_of_implementation {text : String}
    (written : plan.implementation config = .ok text) :
    ∃ body, plan.body config = .ok body ∧ plan.WritesNames config text body := by
  rw [implementation] at written
  split at written
  · cases written
  · next spelling ofRecord =>
      split at written
      · cases written
      · next body ofBody =>
          cases written
          refine ⟨body, ofBody, ⟨spelling, ofRecord, ?_⟩, fun step member name inside => ?_⟩
          · simp [ofLines]
          · obtain ⟨text, ofStep, contained⟩ := containsText_body ofBody member
            obtain ⟨spelling, spelled, named⟩ := Statement.writes_name ofStep inside
            exact ⟨spelling, spelled, contained.trans named⟩

/-- A plan without an implementation blames one of its names, which is not spelled. -/
theorem exists_name_of_implementation_error (failed : plan.implementation config = .error error) :
    ∃ name ∈ plan.names, ¬IsSpelled name ∧ error = .invalidIdentifier plan.record name := by
  rw [implementation] at failed
  split at failed
  · next unspelled =>
      cases failed
      refine ⟨plan.record, List.mem_cons_self, ?_, rfl⟩
      rintro ⟨spelling, spelled⟩
      cases unspelled.symm.trans spelled
  · split at failed
    · next ofBody =>
        cases failed
        rw [body] at ofBody
        split at ofBody
        · next ofSteps =>
            cases ofBody
            obtain ⟨step, member, name, inside, blamed⟩ := exists_name_of_stepLines_error ofSteps
            have listed : name ∈ plan.names :=
              List.mem_cons_of_mem _ (List.mem_flatMap.2 ⟨step, member, inside⟩)
            exact ⟨name, listed, blamed⟩
        · cases ofBody
    · cases failed

end Plan

/-- A plan is written if and only if all its names are spelled. -/
theorem emission_of_names (plan : Plan) (config : GeneratorConfig) :
    ((∀ name ∈ plan.names, IsSpelled name) → ∃ text body, plan.implementation config = .ok text ∧
      plan.body config = .ok body ∧ plan.WritesNames config text body) ∧
    (∀ name ∈ plan.names, ¬IsSpelled name → ∃ blamed ∈ plan.names, ∃ error, ¬IsSpelled blamed ∧
      plan.implementation config = .error error ∧
      error = .invalidIdentifier plan.record blamed ∧ error.code = "EMIT_INVALID_IDENT") ∧
    (∀ name spelling, Identifier.spelling? name = some spelling ↔
      HasForm Identifier.isStart Emitted.isNamePart name ∧ name ∉ Identifier.unspeakable ∧
        Spells name spelling) ∧
    (∀ name : String, (∀ c ∈ name.toList, IsAlike c) →
      (IsSpelled name ↔ IsGrammatical name ∧ name ∉ Identifier.unspeakable)) ∧
    (∀ c, Text.isAscii c = true ∨ IsStableLetter c → IsAlike c) ∧
    ∀ c, IsAlike c ↔ ∀ name : String, (∀ x ∈ name.toList, Text.isAscii x = true ∨ x = c) →
      (IsSpelled name ↔ IsGrammatical name ∧ name ∉ Identifier.unspeakable) := by
  refine ⟨fun spelled => ?_, fun name member unspelled => ?_,
    fun _ _ => Identifier.spelling?_eq_some_iff, fun _ => Identifier.isSpelled_iff_of_isAlike,
    fun _ => Or.rec Identifier.isAlike_of_isAscii IsStableLetter.isAlike,
    fun _ => Identifier.isAlike_iff⟩
  · obtain ⟨text, written⟩ := Plan.implementation_ok_iff.2 spelled
    obtain ⟨body, ofBody, writes⟩ := Plan.writesNames_of_implementation written
    exact ⟨text, body, written, ofBody, writes⟩
  · cases written : plan.implementation config with
    | ok text => exact absurd (Plan.implementation_ok_iff.1 ⟨text, written⟩ name member) unspelled
    | error error =>
        obtain ⟨blamed, listed, refused, rfl⟩ := Plan.exists_name_of_implementation_error written
        exact ⟨blamed, listed, _, refused, rfl, rfl, rfl⟩

/-- The name of the field is a keyword. -/
def breedPlan : Plan :=
  ⟨"Breed", "farm", [.check ⟨"type", .text, ⟨"req", none⟩⟩ .notEmpty]⟩

theorem emission_of_names_of_breedPlan :
    (∀ name ∈ breedPlan.names, IsSpelled name) ∧ ∃ text body,
      breedPlan.implementation .default = .ok text ∧ breedPlan.body .default = .ok body ∧
      breedPlan.WritesNames .default text body := by
  have spelled : ∀ name ∈ breedPlan.names, IsSpelled name := by
    intro name member
    rcases List.mem_pair.1 member with rfl | rfl
    · exact ⟨"Breed", rfl⟩
    · exact ⟨"r#type", rfl⟩
  exact ⟨spelled, (emission_of_names breedPlan .default).1 spelled⟩

/-- A plot has a field for its area, in square units. -/
def plotPlan : Plan :=
  ⟨"Plot", "site", [.check ⟨"area²", .text, ⟨"req", none⟩⟩ .notEmpty]⟩

/-- A raised two is a number. -/
theorem isNamePart_raisedTwo : Emitted.isNamePart '²' = true := by
  have number : Unicode.GeneralCategory.otherNumberPoints.contains '²' = true := by
    apply Unicode.CodePointSet.contains_ofText
    decide +kernel
  have foreign : Text.isAscii '²' = false := by decide
  simp [Emitted.isNamePart, Unicode.isAlphanumeric, Unicode.isNumeric, foreign,
    Unicode.GeneralCategory.contains, Unicode.GeneralCategory.members, number]

/-- No table of the language has the raised two. -/
theorem isIdentifierContinue_raisedTwo : Unicode.isIdentifierContinue '²' = false := by
  apply Unicode.isIdentifierContinue_eq_false
  simp only [Unicode.identifierTables, List.forall_mem_cons]
  refine ⟨?_, ?_, ?_, ?_, ?_, ?_, ?_, ?_, ?_, ?_, ?_, ?_, by simp⟩ <;>
    (apply Unicode.CodePointSet.contains_ofText; decide +kernel)

/-- The plan of a plot is written, and one of its names is no identifier. -/
theorem written_name_is_not_grammatical :
    (∃ text, plotPlan.implementation .default = .ok text) ∧ "area²" ∈ plotPlan.names ∧
      IsSpelled "area²" ∧ ¬IsGrammatical "area²" := by
  have letters : ['r', 'e', 'a'].all Emitted.isNamePart = true := by decide
  have spelled : IsSpelled "area²" := by
    refine Identifier.isSpelled_iff.2 ⟨⟨'a', ['r', 'e', 'a', '²'], rfl, by decide, ?_⟩, by decide⟩
    intro c member
    rcases List.mem_append.1 (show c ∈ ['r', 'e', 'a'] ++ ['²'] from member) with ascii | raised
    · exact List.all_eq_true.1 letters c ascii
    · rw [List.mem_singleton.1 raised, isNamePart_raisedTwo]
  refine ⟨Plan.implementation_ok_iff.2 fun name member => ?_, by decide, spelled, ?_⟩
  · rcases List.mem_pair.1 member with rfl | rfl
    · exact ⟨"Plot", rfl⟩
    · exact spelled
  · rintro ⟨first, rest, shown, -, parts⟩
    cases (show ['a', 'r', 'e', 'a', '²'] = first :: rest from shown)
    have part := parts '²' (by simp)
    simp [Source.isNamePart, Unicode.isStableIdentifierContinue, Text.isAscii,
      isIdentifierContinue_raisedTwo] at part

end FieldRules
