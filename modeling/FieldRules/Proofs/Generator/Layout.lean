import FieldRules.Proofs.Generator.Identifier
import FieldRules.Proofs.Text.Cut

/-!
This file says how the text of a validator is laid out. The generator writes one line for each
statement, since the texts in it are literals on one line, so the lines of a body are indented
without any loss.
-/

namespace FieldRules

namespace Text

/-- No line ends inside of the text. -/
def OnLine (text : String) : Prop :=
  ∀ c ∈ text.toList, c ≠ '\n' ∧ c ≠ '\r'

/-- No line ends inside of the text, and its end is kept. -/
structure IsLine (line : String) : Prop where
  unbroken : '\n' ∉ line.toList
  kept : line.toList.getLast? ≠ some '\r'

instance (text : String) : Decidable (OnLine text) :=
  decidable_of_iff (text.toList.all fun c => c != '\n' && c != '\r')
    (by simp [OnLine])

theorem onLine_append {front back : String} :
    OnLine (front ++ back) ↔ OnLine front ∧ OnLine back := by
  simp only [OnLine, String.toList_append, List.forall_mem_append]

theorem OnLine.isLine {line : String} (onLine : OnLine line) : IsLine line := by
  refine ⟨fun member => (onLine _ member).1 rfl, fun last => ?_⟩
  exact (onLine _ (List.mem_of_getLast? last)).2 rfl

/-- A text without line breaks in front of a line makes a longer line. -/
theorem IsLine.append {front back : String} (isLine : IsLine back) (unbroken : '\n' ∉ front.toList)
    (written : back ≠ "") : IsLine (front ++ back) := by
  have nonempty : back.toList ≠ [] := by simpa using written
  refine ⟨?_, ?_⟩
  · rw [String.toList_append, List.mem_append]
    exact not_or.2 ⟨unbroken, isLine.unbroken⟩
  · rw [String.toList_append, List.getLast?_append_of_ne_nil _ nonempty]
    exact isLine.kept

/-- What stands on its line around a text without line breaks makes a line with it. -/
theorem isLine_around {front middle back : String} (first : OnLine front)
    (unbroken : '\n' ∉ middle.toList) (last : OnLine back) (written : back ≠ "") :
    IsLine (front ++ middle ++ back) := by
  refine last.isLine.append ?_ written
  rw [String.toList_append, List.mem_append]
  exact not_or.2 ⟨first.isLine.unbroken, unbroken⟩

theorem linesOf_append_nil {lines : List (List Char)}
    (kept : ∀ line ∈ lines, line.getLast? ≠ some '\r') : linesOf (lines ++ [[]]) = lines := by
  induction lines with
  | nil => rfl
  | cons line lines inductionHypothesis =>
      rw [List.forall_mem_cons] at kept
      have whole : dropReturn line = line := by rw [dropReturn, if_neg kept.1]
      have rest := inductionHypothesis kept.2
      cases lines with
      | nil => simp [linesOf, whole]
      | cons second lines =>
          rw [List.cons_append, List.cons_append, linesOf, whole, ← List.cons_append, rest]
          simp

/-- Lines that are written one below the other are read back. -/
theorem lines_ofLines {lines : List String} (each : ∀ line ∈ lines, IsLine line) :
    Text.lines (Plan.ofLines lines) = lines := by
  -- Each line ends in a break, so the last piece of the text is empty and no line.
  have cut : (Plan.ofLines lines).toList.splitOn '\n' = lines.map String.toList ++ [[]] := by
    induction lines with
    | nil => rfl
    | cons line lines inductionHypothesis =>
        rw [List.forall_mem_cons] at each
        rw [Emitted.ofLines_cons,
          List.splitOn_append_cons_self_of_not_mem each.1.unbroken, inductionHypothesis each.2]
        rfl
  have kept : ∀ line ∈ lines.map String.toList, line.getLast? ≠ some '\r' := by
    intro line member
    obtain ⟨source, inside, rfl⟩ := List.mem_map.1 member
    exact (each source inside).kept
  rw [Text.lines, pieces_eq_splitOn, cut, linesOf_append_nil kept, List.map_map]
  simp

end Text

open Text (OnLine IsLine onLine_append)

/-- A spelling adds no characters to a name but the mark of raw names. -/
theorem Identifier.onLine_spelling {name spelling : String}
    (spelled : Identifier.spelling? name = some spelling) : OnLine name ∧ OnLine spelling := by
  have onLine : OnLine name := by
    intro c member
    have part := (Emitted.isNamePart_of_spelling spelled).2 c member
    constructor <;> (rintro rfl; cases part)
  refine ⟨onLine, ?_⟩
  cases (Identifier.spelling?_eq_some_iff.1 spelled).2.2 with
  | plain _ => exact onLine
  | raw _ => exact onLine_append.2 ⟨by decide, onLine⟩

/-! ### Statements -/

namespace Statement

/-- The texts that a statement writes as literals. -/
def texts : Statement → List String
  | .push field (.pattern pattern) => [field, pattern.text]
  | .push field (.equalsField target) => [field, target]
  | .push field _ => [field]
  | .append _ => []

variable {runtimePath record field name value text : String} {test : FieldCheck}
  {statement : Statement}

/-- A field of the record stays on its line. -/
theorem onLine_fieldValue (written : fieldValue record name = .ok value) : OnLine value := by
  obtain ⟨spelling, spelled, rfl⟩ := spelling_of_fieldValue written
  exact onLine_append.2 ⟨by decide, (Identifier.onLine_spelling spelled).2⟩

theorem onLine_number (value : Int) : OnLine (toString value) := by
  have digits (value : Nat) : ∀ c ∈ Nat.toDigits 10 value, c ≠ '\n' ∧ c ≠ '\r' := by
    intro c member
    have digit := Text.isDigit_of_mem_toDigits member
    constructor <;> (rintro rfl; cases digit)
  cases value with
  | ofNat value =>
      rw [OnLine, Text.toList_ofNat]
      exact digits value
  | negSucc value =>
      rw [OnLine, Text.toList_negSucc, List.forall_mem_cons]
      exact ⟨by decide, digits _⟩

/-- A call stays on its line if its arguments do. -/
theorem onLine_call {function : String} {arguments : List String} (named : OnLine function)
    (each : ∀ argument ∈ arguments, OnLine argument) : OnLine (call function arguments) := by
  have joined : OnLine (", ".intercalate arguments) := by
    induction arguments with
    | nil => decide
    | cons argument arguments inductionHypothesis =>
        rw [List.forall_mem_cons] at each
        cases arguments with
        | nil =>
            rw [String.intercalate_singleton]
            exact each.1
        | cons second arguments =>
            rw [String.intercalate_cons_cons, onLine_append, onLine_append]
            exact ⟨⟨each.1, by decide⟩, inductionHypothesis each.2⟩
  rw [call, onLine_append, onLine_append, onLine_append]
  exact ⟨⟨⟨named, by decide⟩, joined⟩, by decide⟩

theorem onLine_quoted (text : String) : OnLine (Text.quoted text) :=
  (Source.isLiteral_quoted text).on_line

/-- A check stays on its line, whatever its texts are. -/
theorem onLine_checkCall (ofField : fieldValue record field = .ok value)
    (written : checkCall record field value test = .ok text) : OnLine text := by
  have name := onLine_quoted field
  have copied := onLine_fieldValue ofField
  have borrowed : OnLine ("&" ++ value) := onLine_append.2 ⟨by decide, copied⟩
  cases test with
  | equalsField target =>
      obtain ⟨other, ofSibling, rfl⟩ := checkCall_equalsField_ok_iff.1 written
      have sibling : OnLine ("&" ++ other) :=
        onLine_append.2 ⟨by decide, onLine_fieldValue ofSibling⟩
      exact onLine_call (by decide) (by simp [name, borrowed, sibling, onLine_quoted])
  | pattern pattern =>
      cases written
      exact onLine_call (by decide) (by simp [name, borrowed, onLine_quoted])
  | greaterThan bound | lessThan bound =>
      cases written
      have number : OnLine (toString bound) := onLine_number bound
      exact onLine_call (by decide) (by simpa [name, copied] using number)
  | longerThan bound | shorterThan bound =>
      cases written
      have number : OnLine (toString bound) := onLine_number bound
      exact onLine_call (by decide) (by simpa [name, borrowed] using number)
  | notEmpty | email | url | ip =>
      cases written
      exact onLine_call (by decide) (by simp [name, borrowed])

/-- A statement writes each of its texts as a literal. -/
theorem containsText_quoted (written : statement.text runtimePath record = .ok text) {part : String}
    (member : part ∈ statement.texts) : ContainsText text (Text.quoted part) := by
  rcases Emitted.text_cases written with
    ⟨field, value, rfl, -, rfl⟩ | ⟨field, test, value, check, rfl, -, checked, rfl⟩
  · cases member
  · refine (containsText_enclosed ("result.push(" ++ runtimePath ++ "::validators::")
      check ");").trans ?_
    cases test with
    | equalsField target =>
        obtain ⟨other, -, rfl⟩ := checkCall_equalsField_ok_iff.1 checked
        rcases List.mem_pair.1 member with rfl | rfl <;> exact containsText_call _ (by simp)
    | pattern pattern =>
        cases checked
        rcases List.mem_pair.1 member with rfl | rfl <;> exact containsText_call _ (by simp)
    | _ =>
        cases checked
        rw [List.mem_singleton.1 member]
        exact containsText_call _ (by simp)

/-- A statement stays on its line around its runtime path. -/
theorem exists_around_of_text (written : statement.text runtimePath record = .ok text) :
    ∃ front back, text = front ++ runtimePath ++ back ∧ OnLine front ∧ OnLine back ∧ back ≠ "" := by
  rcases Emitted.text_cases written with
    ⟨field, value, rfl, ofField, rfl⟩ | ⟨field, test, value, check, rfl, ofField, checked, rfl⟩
  · refine ⟨"result.append(", "::Validate::validate(&" ++ value ++ "));",
      by simp only [String.append_assoc], by decide, ?_, by simp⟩
    rw [onLine_append, onLine_append]
    exact ⟨⟨by decide, onLine_fieldValue ofField⟩, by decide⟩
  · refine ⟨"result.push(", "::validators::" ++ check ++ ");",
      by simp only [String.append_assoc], by decide, ?_, by simp⟩
    rw [onLine_append, onLine_append]
    exact ⟨⟨by decide, onLine_checkCall ofField checked⟩, by decide⟩

/-- A field whose statement has a text has its name on its line. -/
theorem onLine_field (written : statement.text runtimePath record = .ok text) :
    OnLine statement.field := by
  rcases Emitted.text_cases written with
    ⟨field, value, rfl, ofField, -⟩ | ⟨field, test, value, check, rfl, ofField, -, -⟩
  all_goals
    obtain ⟨spelling, spelled, -⟩ := spelling_of_fieldValue ofField
    exact (Identifier.onLine_spelling spelled).1

end Statement

/-! ### Bodies and implementations -/

namespace Plan

variable {config : GeneratorConfig} {plan : Plan} {record : String}

/-- The lines in front of the body of an implementation. -/
def openingLines (config : GeneratorConfig) (spelling : String) : List String :=
  ["impl " ++ config.runtimePath ++ "::Validate for " ++ spelling ++ " \x7b",
    "    fn validate(&self) -> " ++ config.runtimePath ++ "::ValidationResult \x7b"]

/-- The lines behind the body of an implementation. -/
def closingLines : List String :=
  ["    \x7d", "\x7d"]

/-- A line without the eight spaces at its start. -/
def outdented (line : String) : String :=
  String.ofList ((Text.dropFront? "        ".toList line.toList).getD line.toList)

/-- This function drops the two lines around the body and the indentation. -/
def bodyWithin (text : String) : String :=
  ofLines ((((Text.lines text).drop 2).rdrop 2).map outdented)

theorem isLine_openingLines (unbroken : '\n' ∉ config.runtimePath.toList) {name spelling : String}
    (spelled : Identifier.spelling? name = some spelling) :
    ∀ line ∈ openingLines config spelling, IsLine line := by
  have back : OnLine ("::Validate for " ++ spelling ++ " \x7b") := by
    rw [onLine_append, onLine_append]
    exact ⟨⟨by decide, (Identifier.onLine_spelling spelled).2⟩, by decide⟩
  have first := Text.isLine_around (show OnLine "impl " by decide) unbroken back (by simp)
  rw [openingLines, List.forall_mem_cons, List.forall_mem_singleton]
  exact ⟨by simpa only [String.append_assoc] using first,
    Text.isLine_around (by decide) unbroken (by decide) (by simp)⟩

theorem isLine_closingLines : ∀ line ∈ closingLines, IsLine line := by
  rw [closingLines, List.forall_mem_cons, List.forall_mem_singleton]
  exact ⟨(show OnLine "    \x7d" by decide).isLine, (show OnLine "\x7d" by decide).isLine⟩

theorem outdented_indented (line : String) : outdented (indented line) = line := by
  rw [indented]
  split
  · next empty =>
      rw [String.isEmpty_iff.1 empty]
      rfl
  · rw [outdented, String.toList_append, Emitted.dropFront?_append, Option.getD_some,
      String.ofList_toList]

theorem isLine_indented {line : String} (isLine : IsLine line) : IsLine (indented line) := by
  rw [indented]
  split
  · exact isLine
  · next written => exact isLine.append (by decide) (by simpa using written)

/-- If the runtime path has no line break, each statement is a line. -/
theorem isLine_of_text (unbroken : '\n' ∉ config.runtimePath.toList) {statement : Statement}
    {line : String} (written : statement.text config.runtimePath record = .ok line) :
    IsLine line := by
  obtain ⟨front, back, rfl, first, last, nonempty⟩ := Statement.exists_around_of_text written
  exact Text.isLine_around first unbroken last nonempty

theorem isLine_of_stepLines (unbroken : '\n' ∉ config.runtimePath.toList)
    {current : Option String} {steps : List Step} {lines : List String}
    (written : stepLines config record current steps = .ok lines) :
    ∀ line ∈ lines, IsLine line := by
  induction steps generalizing current lines with
  | nil =>
      cases written
      exact fun line member => absurd member List.not_mem_nil
  | cons step steps inductionHypothesis =>
      rw [stepLines] at written
      split at written
      · cases written
      · next statement ofStep =>
          split at written
          · cases written
          · next others rest =>
              have further : ∀ line ∈ statement :: others, IsLine line :=
                List.forall_mem_cons.2 ⟨isLine_of_text unbroken ofStep, inductionHypothesis rest⟩
              split at written
              · cases written
                exact further
              · cases written
                have name : OnLine step.site.field :=
                  Statement.field_step step ▸ Statement.onLine_field ofStep
                have comment : OnLine ("// Field: " ++ step.site.field) :=
                  onLine_append.2 ⟨by decide, name⟩
                exact List.forall_mem_cons.2 ⟨(show OnLine "" by decide).isLine,
                  List.forall_mem_cons.2 ⟨comment.isLine, further⟩⟩

/-- The first line of a body. -/
def resultLine (config : GeneratorConfig) : String :=
  "let mut result = " ++ config.runtimePath ++ "::ValidationResult::success();"

/-- A body on an unbroken path is written from the lines of its steps. -/
theorem lines_of_body (unbroken : '\n' ∉ config.runtimePath.toList) {body : String}
    (written : plan.body config = .ok body) :
    ∃ lines, stepLines config plan.record none plan.steps = .ok lines ∧
      Text.lines body = [resultLine config] ++ lines ++ ["", "result"] ∧
      (∀ line ∈ Text.lines body, IsLine line) ∧ ofLines (Text.lines body) = body := by
  rw [Plan.body] at written
  split at written
  · cases written
  · next lines ofSteps =>
      have each : ∀ line ∈ [resultLine config] ++ lines ++ ["", "result"], IsLine line := by
        rw [List.forall_mem_append, List.forall_mem_append, List.forall_mem_singleton,
          List.forall_mem_cons, List.forall_mem_singleton]
        exact ⟨⟨Text.isLine_around (by decide) unbroken (by decide) (by simp),
          isLine_of_stepLines unbroken ofSteps⟩, (show OnLine "" by decide).isLine,
          (show OnLine "result" by decide).isLine⟩
      have whole : body = ofLines ([resultLine config] ++ lines ++ ["", "result"]) :=
        (Except.ok.inj written).symm
      have read := Text.lines_ofLines each
      rw [← whole] at read
      rw [read]
      exact ⟨lines, ofSteps, rfl, each, whole.symm⟩

/-- An implementation is the body between two lines, each line indented. -/
structure Wraps (config : GeneratorConfig) (spelling body text : String) : Prop where
  whole : text = ofLines
    (openingLines config spelling ++ (Text.lines body).map indented ++ closingLines)
  lines : Text.lines text =
    openingLines config spelling ++ (Text.lines body).map indented ++ closingLines
  within : bodyWithin text = body

theorem wraps_of_implementation (unbroken : '\n' ∉ config.runtimePath.toList) {body text : String}
    (ofBody : plan.body config = .ok body) (written : plan.implementation config = .ok text) :
    ∃ spelling, Identifier.spelling? plan.record = some spelling ∧
      Wraps config spelling body text := by
  obtain ⟨-, -, -, each, joined⟩ := lines_of_body unbroken ofBody
  rw [implementation] at written
  split at written
  · cases written
  · next spelling spelled =>
      rw [ofBody] at written
      have whole : text = ofLines
          (openingLines config spelling ++ (Text.lines body).map indented ++ closingLines) :=
        (Except.ok.inj written).symm
      have lines : Text.lines text =
          openingLines config spelling ++ (Text.lines body).map indented ++ closingLines := by
        rw [whole]
        apply Text.lines_ofLines
        simp only [List.forall_mem_append]
        refine ⟨⟨isLine_openingLines unbroken spelled, fun line member => ?_⟩, isLine_closingLines⟩
        obtain ⟨inner, inside, rfl⟩ := List.mem_map.1 member
        exact isLine_indented (each inner inside)
      refine ⟨spelling, spelled, whole, lines, ?_⟩
      have inner : (openingLines config spelling ++ (Text.lines body).map indented ++
          closingLines).drop 2 = (Text.lines body).map indented ++ closingLines := rfl
      rw [bodyWithin, lines, inner, show 2 = closingLines.length from rfl,
        List.rdrop_append_length, List.map_map]
      have same : outdented ∘ indented = id := funext outdented_indented
      rw [same, List.map_id, joined]

end Plan

/-- A statement stands on its line, and its texts are literals that denote them. -/
structure Statement.StandsIn (statement : Statement) (config : GeneratorConfig)
    (body line : String) : Prop where
  inside : ContainsText body line
  literals : ∀ text ∈ statement.texts, ContainsText line (Text.quoted text) ∧
    Source.IsLiteral (Text.quoted text) text
  around : ∃ front back, line = front ++ config.runtimePath ++ back ∧ OnLine front ∧ OnLine back
  whole : '\n' ∉ config.runtimePath.toList → IsLine line ∧ line ∈ Text.lines body

/-- Literals denote their texts, and a statement is one line when the runtime path is. -/
theorem body_lines_are_kept {plan : Plan} {config : GeneratorConfig} {body : String}
    (written : plan.body config = .ok body) :
    (∀ step ∈ plan.steps, ∃ line,
      step.statement.text config.runtimePath plan.record = .ok line ∧
        step.statement.StandsIn config body line) ∧
    ('\n' ∉ config.runtimePath.toList →
      (∀ line ∈ Text.lines body, IsLine line) ∧ Plan.ofLines (Text.lines body) = body ∧
      ∀ text, plan.implementation config = .ok text →
        ∃ spelling, Identifier.spelling? plan.record = some spelling ∧
          Plan.Wraps config spelling body text) := by
  refine ⟨fun step member => ?_, fun unbroken => ?_⟩
  · obtain ⟨line, ofStep, inside⟩ := Plan.containsText_body written member
    obtain ⟨front, back, around, first, last, -⟩ := Statement.exists_around_of_text ofStep
    refine ⟨line, ofStep, inside, fun text known => ?_, ⟨front, back, around, first, last⟩,
      fun unbroken => ⟨Plan.isLine_of_text unbroken ofStep, ?_⟩⟩
    · exact ⟨Statement.containsText_quoted ofStep known, Source.isLiteral_quoted text⟩
    · obtain ⟨lines, ofSteps, listed, -⟩ := Plan.lines_of_body unbroken written
      obtain ⟨other, inLines, same⟩ := Plan.exists_line_of_stepLines ofSteps member
      cases same.symm.trans ofStep
      simp [listed, inLines]
  · obtain ⟨-, -, -, each, joined⟩ := Plan.lines_of_body unbroken written
    exact ⟨each, joined, fun text => Plan.wraps_of_implementation unbroken written⟩

/-- The text has a dot between two quotes, and its line ends there. -/
def dottedPattern : Pattern :=
  ⟨"^\"\\.\"\r\n$", .seq (.look .textStart) (.seq (.one (.range '"' '"'))
    (.seq (.one (.range '.' '.')) (.seq (.one (.range '"' '"')) (.seq (.one (.range '\r' '\r'))
      (.seq (.one (.range '\n' '\n')) (.seq (.look .textEnd) .empty))))))⟩

/-- The pattern has line breaks, and the type has a keyword as its name. -/
def badgePlan : Plan :=
  ⟨"Badge", "gate",
    [.check ⟨"label", .text, ⟨"regex", some "^\"\\.\"\r\n$"⟩⟩ (.pattern dottedPattern),
      .check ⟨"again", .text, ⟨"equals", some "type"⟩⟩ (.equalsField "type")]⟩

theorem body_lines_are_kept_of_badgePlan :
    ∃ body, badgePlan.body .default = .ok body ∧
      (∀ step ∈ badgePlan.steps, ∃ line,
        step.statement.text GeneratorConfig.default.runtimePath "Badge" = .ok line ∧
          step.statement.StandsIn .default body line) ∧
      '\n' ∉ GeneratorConfig.default.runtimePath.toList ∧
      ∃ text, badgePlan.implementation .default = .ok text ∧
        Plan.Wraps .default "Badge" body text := by
  have spelled : ∀ name ∈ badgePlan.names, Identifier.IsSpelled name := by
    have listed : badgePlan.names = ["Badge", "label", "again", "type"] := rfl
    rw [listed]
    simp only [List.forall_mem_cons]
    exact ⟨⟨"Badge", rfl⟩, ⟨"label", rfl⟩, ⟨"again", rfl⟩, ⟨"r#type", rfl⟩, nofun⟩
  obtain ⟨text, written⟩ := Plan.implementation_ok_iff.2 spelled
  obtain ⟨body, ofBody⟩ := Plan.exists_body_of_implementation written
  have unbroken : '\n' ∉ GeneratorConfig.default.runtimePath.toList := by decide
  obtain ⟨stands, laid⟩ := body_lines_are_kept ofBody
  obtain ⟨spelling, ofRecord, wraps⟩ := (laid unbroken).2.2 text written
  cases ofRecord
  exact ⟨body, ofBody, stands, unbroken, text, written, wraps⟩

end FieldRules
