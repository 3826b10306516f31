import FieldRules.Generator.Basic
import FieldRules.Proofs.Generator.Spelling
import Mathlib.Data.List.Forall2

/-!
This file reads the text of a generated validator as calls. Whatever the generator writes for the
steps of a plan is read as one call for each step, in their order.
-/

namespace FieldRules.Emitted

open Text

/-- An argument is a literal or a field of the record that is validated. -/
inductive Argument where
  | text (value : String)
  | number (value : Int)
  | borrowed (field : String)
  | copied (field : String)
  deriving Repr, DecidableEq

/-- A call pushes the outcome of a check or appends a nested report. -/
inductive Call where
  | check (function : String) (arguments : List Argument)
  | validate (field : String)
  deriving Repr, DecidableEq

/-! ### The reader -/

def readField? (text : List Char) : Option (String × List Char) :=
  match dropFront? "self.".toList text with
  | none => none
  | some name => readName? name

def readArgument? (text : List Char) : Option (Argument × List Char) :=
  match text with
  | '"' :: _ =>
      (Source.readString? text).map fun (value, rest) => (.text (String.ofList value), rest)
  | '&' :: place => (readField? place).map fun (field, rest) => (.borrowed field, rest)
  | 's' :: _ => (readField? text).map fun (field, rest) => (.copied field, rest)
  | _ => (readNumber? text).map fun (value, rest) => (.number value, rest)

/-- The arguments end with a closing parenthesis. -/
def readArguments? (text : List Char) : Option (List Argument × List Char) :=
  match readArgument? text with
  | none => none
  | some (argument, ')' :: rest) => some ([argument], rest)
  | some (argument, ',' :: ' ' :: others) =>
      if _shorter : others.length < text.length then
        (readArguments? others).map fun (arguments, rest) => (argument :: arguments, rest)
      else none
  | _ => none
termination_by text.length

def readCheck? (text : List Char) : Option (Call × List Char) :=
  match text.dropWhile isNamePart with
  | '(' :: arguments =>
      (readArguments? arguments).map fun (arguments, rest) =>
        (.check (String.ofList (text.takeWhile isNamePart)) arguments, rest)
  | _ => none

/-- The statement of a call names the library by its path. -/
def readCall? (runtimePath : String) (text : List Char) : Option (Call × List Char) :=
  match dropFront? ("result.append(" ++ runtimePath ++ "::Validate::validate(&").toList text with
  | some place => do
      let (field, rest) ← readField? place
      let rest ← dropFront? "));".toList rest
      some (.validate field, rest)
  | none => do
      let check ← dropFront? ("result.push(" ++ runtimePath ++ "::validators::").toList text
      let (call, rest) ← readCheck? check
      let rest ← dropFront? ");".toList rest
      some (call, rest)

/-- Line breaks and comments stand between the calls, and the result stands after the last one. -/
def readCalls? (runtimePath : String) (text : List Char) : Option (List Call) :=
  match text with
  | '\n' :: rest => readCalls? runtimePath rest
  | '/' :: '/' :: comment => readCalls? runtimePath (comment.dropWhile (· != '\n'))
  | text =>
      if text = "result\n".toList then some []
      else
        match readCall? runtimePath text with
        | none => none
        | some (call, rest) =>
            if _shorter : rest.length < text.length then
              (readCalls? runtimePath rest).map fun calls => call :: calls
            else none
termination_by text.length
decreasing_by
  · simp
  · have shorter := List.dropWhile_suffix (l := comment) (· != '\n') |>.length_le
    simp
    omega
  · exact _shorter

/-- The body of a validator starts from the report that passes. -/
def readBody? (runtimePath : String) (body : String) : Option (List Call) :=
  match dropFront? ("let mut result = " ++ runtimePath ++ "::ValidationResult::success();\n").toList
      body.toList with
  | none => none
  | some calls => readCalls? runtimePath calls

/-! ### The calls of a plan -/

/-- The call of each check, with the name of its field as the first argument. -/
def checkCall (field : String) : FieldCheck → Call
  | .notEmpty => .check "is_not_empty" [.text field, .borrowed field]
  | .email => .check "is_email" [.text field, .borrowed field]
  | .url => .check "is_url" [.text field, .borrowed field]
  | .ip => .check "is_ip" [.text field, .borrowed field]
  | .pattern pattern =>
      .check "satisfies_regex" [.text field, .borrowed field, .text pattern.text]
  | .longerThan bound =>
      .check "is_length_greater_than" [.text field, .borrowed field, .number bound]
  | .shorterThan bound =>
      .check "is_length_less_than" [.text field, .borrowed field, .number bound]
  | .greaterThan bound => .check "is_greater_than" [.text field, .copied field, .number bound]
  | .lessThan bound => .check "is_less_than" [.text field, .copied field, .number bound]
  | .equalsField target =>
      .check "is_equal_to" [.text field, .text target, .borrowed field, .borrowed target]

def statementCall : Statement → Call
  | .push field test => checkCall field test
  | .append field => .validate field

/-! ### Reading back -/

theorem dropFront?_append (front rest : List Char) :
    dropFront? front (front ++ rest) = some rest := by
  induction front with
  | nil => rfl
  | cons c front inductionHypothesis => simpa [dropFront?] using inductionHypothesis

theorem dropFront?_toList (front middle back : String) (rest : List Char) :
    dropFront? front.toList ((front ++ middle ++ back).toList ++ rest) =
      some (middle.toList ++ (back.toList ++ rest)) := by
  simp only [String.toList_append, List.append_assoc, dropFront?_append]

/-- The text of a field of the record reads back as its name. -/
theorem readField?_fieldValue {record name value : String} {rest : List Char}
    (spelled : Statement.fieldValue record name = .ok value)
    (stops : rest.head?.any isNamePart = false) (apart : rest.head? ≠ some '#') :
    readField? (value.toList ++ rest) = some (name, rest) := by
  rw [Statement.fieldValue] at spelled
  split at spelled
  · next spelling known =>
      cases spelled
      rw [readField?, String.toList_append, List.append_assoc, dropFront?_append]
      exact readName?_spelling known stops apart
  · cases spelled

/-- The place of an argument ends at a comma or at a closing parenthesis. -/
theorem readField?_argument {record name value : String} {mark : Char} (rest : List Char)
    (spelled : Statement.fieldValue record name = .ok value) (ends : mark = ',' ∨ mark = ')') :
    readField? (value.toList ++ mark :: rest) = some (name, mark :: rest) := by
  rcases ends with rfl | rfl
  · exact readField?_fieldValue spelled rfl (by simp)
  · exact readField?_fieldValue spelled rfl (by simp)

/-- The text is read as the argument in front of each comma and each closing parenthesis. -/
def Spells (text : String) (argument : Argument) : Prop :=
  ∀ mark rest, mark = ',' ∨ mark = ')' →
    readArgument? (text.toList ++ mark :: rest) = some (argument, mark :: rest)

theorem spells_quoted (value : String) : Spells (quoted value) (.text value) := by
  intro mark rest _
  have read := Source.readString?_quoted value (mark :: rest)
  simp only [quoted, String.toList_ofList, List.cons_append] at read ⊢
  rw [readArgument?, read]
  simp

/-- A number begins with its sign or with a digit. -/
theorem readArgument?_number {first : Char} {rest : List Char}
    (numeric : first = '-' ∨ isDigit first = true) :
    readArgument? (first :: rest) =
      (readNumber? (first :: rest)).map fun (value, rest) => (.number value, rest) := by
  rw [readArgument?]
  all_goals
    rintro _ same
    cases same
    simp [isDigit] at numeric

theorem spells_number (value : Int) : Spells (toString value) (.number value) := by
  intro mark rest ends
  have stops : (mark :: rest).head?.any isDigit = false := by
    rcases ends with rfl | rfl <;> rfl
  have read := readNumber?_toString value stops
  cases value with
  | ofNat value =>
      obtain ⟨first, others, spelled, digit⟩ := toDigits_eq_cons value
      rw [toList_ofNat, spelled, List.cons_append] at read ⊢
      rw [readArgument?_number (.inr digit), read]
      rfl
  | negSucc value =>
      rw [toList_negSucc, List.cons_append] at read ⊢
      rw [readArgument?_number (.inl rfl), read]
      rfl

theorem spells_borrowed {record name value : String}
    (spelled : Statement.fieldValue record name = .ok value) :
    Spells ("&" ++ value) (.borrowed name) := by
  intro mark rest ends
  have read := readField?_argument rest spelled ends
  have begins : ("&" ++ value).toList = '&' :: value.toList := by simp
  rw [begins, List.cons_append, readArgument?, read]
  rfl

theorem spells_copied {record name value : String}
    (spelled : Statement.fieldValue record name = .ok value) : Spells value (.copied name) := by
  intro mark rest ends
  have read := readField?_argument rest spelled ends
  rw [Statement.fieldValue] at spelled
  split at spelled
  · next spelling known =>
      cases spelled
      have begins : ("self." ++ spelling).toList = 's' :: ("elf." ++ spelling).toList := by simp
      rw [begins, List.cons_append] at read ⊢
      rw [readArgument?, read]
      rfl
  · cases spelled

/-- Spelled arguments read back from their list in parentheses. -/
theorem readArguments?_intercalate {texts : List String} {arguments : List Argument}
    (spelled : List.Forall₂ Spells texts arguments) (written : texts ≠ []) (rest : List Char) :
    readArguments? ((", ".intercalate texts).toList ++ ')' :: rest) = some (arguments, rest) := by
  induction spelled with
  | nil => exact absurd rfl written
  | @cons text argument texts arguments first others inductionHypothesis =>
      cases others with
      | nil =>
          rw [String.intercalate_singleton, readArguments?, first ')' rest (.inr rfl)]
          rfl
      | @cons second next texts arguments later others =>
          have remaining := inductionHypothesis (List.cons_ne_nil _ _)
          have begins : (", ".intercalate (text :: second :: texts)).toList ++ ')' :: rest =
              text.toList ++ ',' :: ' ' ::
                ((", ".intercalate (second :: texts)).toList ++ ')' :: rest) := by
            simp [String.intercalate_cons_cons]
          rw [begins, readArguments?, first ',' _ (.inl rfl)]
          simp only [List.length_append, List.length_cons]
          rw [dif_pos (by omega), remaining]
          rfl

/-- The call of a check reads back from its text. -/
theorem readCheck?_call {function : String} {texts : List String} {arguments : List Argument}
    (named : function.toList.all isNamePart = true)
    (spelled : List.Forall₂ Spells texts arguments) (written : texts ≠ []) (rest : List Char) :
    readCheck? ((Statement.call function texts).toList ++ rest) =
      some (.check function arguments, rest) := by
  have begins : (Statement.call function texts).toList ++ rest =
      function.toList ++ '(' :: ((", ".intercalate texts).toList ++ ')' :: rest) := by
    simp [Statement.call]
  have name (tail : List Char) : (function.toList ++ '(' :: tail).takeWhile isNamePart =
      function.toList ∧ (function.toList ++ '(' :: tail).dropWhile isNamePart = '(' :: tail :=
    span_append (List.all_eq_true.1 named) rfl
  rw [begins, readCheck?, (name _).2]
  simp only [(name _).1, readArguments?_intercalate spelled written rest, Option.map_some,
    String.ofList_toList]

/-- The text of each check reads back as its call. -/
theorem readCheck?_checkCall {record field value text : String} {test : FieldCheck}
    (spelled : Statement.fieldValue record field = .ok value)
    (written : Statement.checkCall record field value test = .ok text) (rest : List Char) :
    readCheck? (text.toList ++ rest) = some (checkCall field test, rest) := by
  have name := spells_quoted field
  have borrowed := spells_borrowed spelled
  have copied := spells_copied spelled
  cases test with
  | equalsField target =>
      rw [Statement.checkCall] at written
      cases sibling : Statement.fieldValue record target with
      | error error => simp [sibling, Except.map] at written
      | ok targetValue =>
          simp only [sibling, Except.map, Except.ok.injEq] at written
          subst written
          exact readCheck?_call rfl
            (.cons name (.cons (spells_quoted target)
              (.cons borrowed (.cons (spells_borrowed sibling) .nil)))) (by simp) rest
  | pattern pattern =>
      cases written
      exact readCheck?_call rfl
        (.cons name (.cons borrowed (.cons (spells_quoted pattern.text) .nil))) (by simp) rest
  | longerThan bound | shorterThan bound =>
      cases written
      exact readCheck?_call rfl
        (.cons name (.cons borrowed (.cons (spells_number bound) .nil))) (by simp) rest
  | greaterThan bound | lessThan bound =>
      cases written
      exact readCheck?_call rfl
        (.cons name (.cons copied (.cons (spells_number bound) .nil))) (by simp) rest
  | notEmpty | email | url | ip =>
      cases written
      exact readCheck?_call rfl (.cons name (.cons borrowed .nil)) (by simp) rest

/-- A statement that has a text is one of two forms. -/
theorem text_cases {runtimePath record text : String} {statement : Statement}
    (written : statement.text runtimePath record = .ok text) :
    (∃ field value, statement = .append field ∧ Statement.fieldValue record field = .ok value ∧
      text = "result.append(" ++ runtimePath ++ "::Validate::validate(&" ++ value ++ "));") ∨
    ∃ field test value check, statement = .push field test ∧
      Statement.fieldValue record field = .ok value ∧
      Statement.checkCall record field value test = .ok check ∧
      text = "result.push(" ++ runtimePath ++ "::validators::" ++ check ++ ");" := by
  rw [Statement.text] at written
  split at written
  · cases written
  · next value spelled =>
      cases statement with
      | append field =>
          cases written
          exact .inl ⟨field, value, rfl, spelled, rfl⟩
      | push field test =>
          dsimp only at written
          cases checked : Statement.checkCall record field value test with
          | error error => simp [checked, Except.map] at written
          | ok check =>
              simp only [checked, Except.map, Except.ok.injEq] at written
              exact .inr ⟨field, test, value, check, rfl, spelled, checked, written.symm⟩

/-- The text of each statement reads back as its call. -/
theorem readCall?_text {runtimePath record text : String} {statement : Statement}
    (written : statement.text runtimePath record = .ok text) (rest : List Char) :
    readCall? runtimePath (text.toList ++ rest) = some (statementCall statement, rest) := by
  rcases text_cases written with
    ⟨field, value, rfl, spelled, rfl⟩ | ⟨field, test, value, check, rfl, spelled, checked, rfl⟩
  · have read : readField? (value.toList ++ ("));".toList ++ rest)) =
        some (field, "));".toList ++ rest) :=
      readField?_fieldValue spelled rfl (by simp)
    rw [readCall?, dropFront?_toList]
    simp only [read, Option.bind_eq_bind, Option.bind_some, dropFront?_append, statementCall]
  · have read := readCheck?_checkCall spelled checked (");".toList ++ rest)
    have other : dropFront? ("result.append(" ++ runtimePath ++ "::Validate::validate(&").toList
        (("result.push(" ++ runtimePath ++ "::validators::" ++ check ++ ");").toList ++ rest) =
          none := by
      simp [dropFront?]
    rw [readCall?, other]
    dsimp only
    rw [dropFront?_toList]
    simp only [read, Option.bind_eq_bind, Option.bind_some, dropFront?_append, statementCall]

theorem text_begins {runtimePath record text : String} {statement : Statement}
    (written : statement.text runtimePath record = .ok text) :
    ∃ call, text.toList = 'r' :: 'e' :: 's' :: 'u' :: 'l' :: 't' :: '.' :: call := by
  rcases text_cases written with
    ⟨field, value, -, -, rfl⟩ | ⟨field, test, value, check, -, -, -, rfl⟩
  · simp
  · simp

section

variable {runtimePath : String}

theorem readCalls?_break (rest : List Char) :
    readCalls? runtimePath ('\n' :: rest) = readCalls? runtimePath rest := by
  rw [readCalls?]

theorem readCalls?_comment {comment : List Char} (line : ∀ c ∈ comment, (c != '\n') = true)
    (rest : List Char) :
    readCalls? runtimePath ('/' :: '/' :: comment ++ '\n' :: rest) =
      readCalls? runtimePath rest := by
  rw [List.cons_append, List.cons_append, readCalls?, List.dropWhile_append_of_pos line]
  exact readCalls?_break rest

theorem readCalls?_result : readCalls? runtimePath "result\n".toList = some [] := by
  rw [readCalls?, if_pos rfl]
  · simp
  · simp

/-- The text of a statement is read as its call. -/
theorem readCalls?_statement {record text : String} {statement : Statement}
    (written : statement.text runtimePath record = .ok text) (rest : List Char) :
    readCalls? runtimePath (text.toList ++ '\n' :: rest) =
      (readCalls? runtimePath rest).map fun calls => statementCall statement :: calls := by
  have read := readCall?_text written ('\n' :: rest)
  obtain ⟨call, begins⟩ := text_begins written
  simp only [begins, List.cons_append] at read ⊢
  rw [readCalls?, if_neg (by simp), read]
  · simp only [List.length_cons, List.length_append]
    rw [dif_pos (by omega), readCalls?_break]
  · simp
  · simp

/-- The name of a field that has a statement stays on one line. -/
theorem field_on_line {record text : String} {step : Step}
    (written : step.statement.text runtimePath record = .ok text) :
    ∀ c ∈ (" Field: " ++ step.site.field).toList, (c != '\n') = true := by
  have parts : ∀ c ∈ step.site.field.toList, isNamePart c = true := by
    rw [Statement.text, Statement.field_step, Statement.fieldValue] at written
    split at written
    · cases written
    · next value spelled =>
        split at spelled
        · next known => exact (isNamePart_of_spelling known).2
        · cases spelled
  intro c member
  rw [String.toList_append, List.mem_append] at member
  rcases member with label | name
  · have spaced : " Field: ".toList.all (· != '\n') = true := rfl
    exact List.all_eq_true.1 spaced c label
  · rw [bne_iff_ne]
    rintro rfl
    cases parts _ name

theorem ofLines_cons (line : String) (lines : List String) :
    (Plan.ofLines (line :: lines)).toList = line.toList ++ '\n' :: (Plan.ofLines lines).toList := by
  simp [Plan.ofLines]

/-- The lines of the steps read back as their calls. -/
theorem readCalls?_stepLines {config : GeneratorConfig} {record : String} {current : Option String}
    {steps : List Step} {lines : List String}
    (written : Plan.stepLines config record current steps = .ok lines) :
    readCalls? config.runtimePath (Plan.ofLines (lines ++ ["", "result"])).toList =
      some (steps.map fun step => statementCall step.statement) := by
  induction steps generalizing current lines with
  | nil =>
      cases written
      rw [List.nil_append, ofLines_cons, String.toList_empty, List.nil_append, readCalls?_break]
      exact readCalls?_result
  | cons step steps inductionHypothesis =>
      rw [Plan.stepLines] at written
      split at written
      · cases written
      · next statement ofStep =>
          split at written
          · cases written
          · next others rest =>
              have remaining := inductionHypothesis rest
              have first : readCalls? config.runtimePath
                  (Plan.ofLines (statement :: (others ++ ["", "result"]))).toList =
                    some (statementCall step.statement ::
                      steps.map fun step => statementCall step.statement) := by
                rw [ofLines_cons, readCalls?_statement ofStep, remaining]
                rfl
              split at written
              · cases written
                exact first
              · cases written
                rw [List.cons_append, ofLines_cons, String.toList_empty, List.nil_append,
                  readCalls?_break, List.cons_append, ofLines_cons]
                have comment : ("// Field: " ++ step.site.field).toList =
                    '/' :: '/' :: (" Field: " ++ step.site.field).toList := by
                  simp
                rw [comment, readCalls?_comment (field_on_line ofStep)]
                exact first

end

/-- The body of each plan reads back as the calls of its steps. -/
theorem readBody?_body {config : GeneratorConfig} {plan : Plan} {body : String}
    (written : plan.body config = .ok body) :
    readBody? config.runtimePath body =
      some (plan.steps.map fun step => statementCall step.statement) := by
  rw [Plan.body] at written
  split at written
  · cases written
  · next lines ofSteps =>
      cases written
      have begins : (Plan.ofLines
          (["let mut result = " ++ config.runtimePath ++ "::ValidationResult::success();"] ++ lines ++
            ["", "result"])).toList =
          ("let mut result = " ++ config.runtimePath ++ "::ValidationResult::success();\n").toList ++
            (Plan.ofLines (lines ++ ["", "result"])).toList := by
        rw [List.append_assoc, List.singleton_append, ofLines_cons]
        simp
      rw [readBody?, begins, dropFront?_append]
      exact readCalls?_stepLines ofSteps

end FieldRules.Emitted
