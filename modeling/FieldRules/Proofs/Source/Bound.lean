import FieldRules.Proofs.Generator.Naming
import FieldRules.Proofs.Plan.Simulation
import FieldRules.Proofs.Source.IntegerType
import FieldRules.Source.Derive

/-!
This file says when a struct with a bound on an integer field has a derived validator. If nothing
else is wrong with the struct, the bound decides: it has to be a value of the type, provided that
the type shows the name of its integer.
-/

namespace FieldRules

open Identifier (IsSpelled)

/-! ### Records with one doubtful rule -/

/-- Nothing is wrong with a record, apart perhaps from one rule of one field. -/
structure Record.IsSoundBut (record : Record) (field : Field) (rule : Rule) : Prop where
  tags : ∀ other ∈ record.fields, ∃ rules, readTag other.name other.tag = .ok rules
  rules : ∀ other ∈ record.fields, ∀ item ∈ other.rules, (other, item) ≠ (field, rule) →
    ∃ resolution, RuleTable record other item resolution
  names : ∀ other ∈ record.fields, ∀ item ∈ other.rules, IsSpelled other.name ∧
    ∀ target, item = ⟨"equals", some target⟩ → IsSpelled target

section

variable {schema : Schema} {record : Record} {field : Field} {rule : Rule}

/-- A record compiles if its doubtful rule is one of the table. -/
theorem Record.IsSoundBut.compileRecord_of_row (sound : record.IsSoundBut field rule)
    {resolution : Resolution} (row : RuleTable record field rule resolution) :
    ∃ plan, (Compiler.deferring schema).compileRecord record = .ok plan := by
  cases compiled : (Compiler.deferring schema).compileRecord record with
  | ok plan => exact ⟨plan, rfl⟩
  | error error =>
      exfalso
      obtain ⟨other, member, ⟨malformed, -, unread⟩ | ⟨item, inside, refusal, -, refused⟩⟩ :=
        occurrence_of_compileRecord_error compiled
      · obtain ⟨rules, read⟩ := sound.tags other member
        cases unread.symm.trans read
      · obtain ⟨resolution, resolved⟩ : ∃ resolution, RuleTable record other item resolution := by
          by_cases same : (other, item) = (field, rule)
          · cases same
            exact ⟨resolution, row⟩
          · exact sound.rules other member item inside same
        cases refused.symm.trans (resolve_of_ruleTable resolved)

/-- If its doubtful rule is refused, a record does not compile. -/
theorem Record.IsSoundBut.compileRecord_of_refused (sound : record.IsSoundBut field rule)
    (member : field ∈ record.fields) (inside : rule ∈ field.rules) {refusal : RuleError}
    (refused : Registry.builtin.resolve record field rule = .error refusal) :
    (Compiler.deferring schema).compileRecord record = .error (.rule record.name refusal) := by
  cases compiled : (Compiler.deferring schema).compileRecord record with
  | ok plan =>
      exfalso
      obtain ⟨steps, -, gives⟩ := gives_of_compileRecord compiled
      have listed : ⟨record, field, rule⟩ ∈ record.occurrences :=
        List.mem_flatMap.2 ⟨field, member, List.mem_map_of_mem inside⟩
      obtain ⟨step, -, ofRule⟩ := exists_right_of_forall₂ gives listed
      cases ofRule with
      | check row => cases refused.symm.trans (resolve_of_ruleTable row)
      | deferred row => cases refused.symm.trans (resolve_of_ruleTable row)
  | error error =>
      obtain ⟨other, otherMember, ⟨malformed, -, unread⟩ | ⟨item, listed, fault, rfl, stopped⟩⟩ :=
        occurrence_of_compileRecord_error compiled
      · obtain ⟨rules, read⟩ := sound.tags other otherMember
        cases unread.symm.trans read
      · by_cases same : (other, item) = (field, rule)
        · cases same
          cases stopped.symm.trans refused
          rfl
        · obtain ⟨resolution, row⟩ := sound.rules other otherMember item listed same
          cases stopped.symm.trans (resolve_of_ruleTable row)

/-- A step writes its own field, and a comparison also writes the sibling of its rule. -/
theorem Occurrence.Gives.names {place : Occurrence} {step : Step} (gives : place.Gives step)
    {name : String} (member : name ∈ step.statement.names) :
    name = place.field.name ∨ place.rule = ⟨"equals", some name⟩ := by
  rcases Statement.mem_names_iff.1 member with rfl | ⟨other, compares⟩
  · left
    cases gives <;> rfl
  · right
    cases gives with
    | deferred row => cases compares
    | check row =>
        obtain ⟨-, rfl⟩ := Statement.push.inj compares
        generalize place.rule = rule at row
        cases row
        rfl

/-- The plan of a sound record has a body. -/
theorem Record.IsSoundBut.exists_body (sound : record.IsSoundBut field rule) {plan : Plan}
    (compiled : (Compiler.deferring schema).compileRecord record = .ok (some plan))
    (config : GeneratorConfig) : ∃ body, plan.body config = .ok body := by
  obtain ⟨steps, ofSteps, gives⟩ := gives_of_compileRecord compiled
  obtain ⟨-, rfl⟩ := Record.plan?_eq_some_iff.1 ofSteps.symm
  obtain ⟨lines, written⟩ : ∃ lines, Plan.stepLines config record.name none steps = .ok lines := by
    refine Plan.stepLines_ok_iff.2 fun step member name inside => ?_
    obtain ⟨place, listed, ofStep⟩ := exists_right_of_forall₂ gives.flip member
    obtain ⟨other, otherMember, ofOther⟩ := List.mem_flatMap.1 listed
    obtain ⟨item, itemMember, rfl⟩ := List.mem_map.1 ofOther
    obtain ⟨spelled, sibling⟩ := sound.names other otherMember item itemMember
    rcases ofStep.names inside with rfl | asked
    · exact spelled
    · exact sibling name asked
  rw [Plan.body, written]
  exact ⟨_, rfl⟩

/-! ### Bounds -/

variable {text : String} {bound : Int}

/-- A bound on an integer field is in the table if its type admits it. -/
theorem exists_row_of_admits (record : Record) (integer : field.kind = .integer)
    (bounds : rule.SetsBound) (present : rule.argument = some text) (spelled : SpellsBound text bound)
    (admits : field.Admits bound) : ∃ resolution, RuleTable record field rule resolution := by
  obtain ⟨keyword, argument⟩ := rule
  cases present
  have word := integerIn?_word_iff.2 spelled
  have fits := (range_contains_iff spelled.2.1 spelled.2.2).2 admits
  rcases bounds with rfl | rfl
  · exact ⟨_, .minValue integer text bound word fits⟩
  · exact ⟨_, .maxValue integer text bound word fits⟩

/-- A bound that the type does not admit is out of range. -/
theorem resolve_of_not_admits (record : Record) (integer : field.kind = .integer)
    (bounds : rule.SetsBound) (present : rule.argument = some text) (spelled : SpellsBound text bound)
    (outside : ¬field.Admits bound) :
    Registry.builtin.resolve record field rule =
      .error ⟨field.name, .outOfRange rule.keyword text field.typeName⟩ := by
  have formed : rule.IsFormed field := by
    rw [Rule.IsFormed, integer, present]
    rcases bounds with keyword | keyword <;> simp [keyword, rulePairs, argumentKeywords]
  refine builtin_resolve_error_iff.2 ⟨rfl, ?_, fun other applies => ?_⟩
  · exact .outOfRange integer bounds text present bound spelled outside
  · exact applies.four_le_stage_of_bound formed bounds present spelled

end

namespace Source

/-! ### Structs -/

/-- The record of a struct with the given fields. -/
def Item.record (item : Item) (fields : List (Field × TypeForm)) : Record :=
  ⟨plainName item.name, "", fields.map Prod.fst⟩

/-- The fields of a struct that the plan compiler sees. -/
def Item.Describes (item : Item) (fields : List (Field × TypeForm)) : Prop :=
  ∃ items, item.body = .namedFields items ∧ describeFields items = .ok fields

section

variable {item : Item} {fields : List (Field × TypeForm)} {field : Field} {type : TypeForm}

theorem derive_of_describes (describes : item.Describes fields) :
    derive item = deriveFields item fields := by
  obtain ⟨items, named, described⟩ := describes
  rw [derive, named]
  dsimp only
  rw [described]

theorem typed_of_describe {source : FieldItem} (described : source.describe = .ok (some field)) :
    field.kind = source.type.kind ∧ field.typeName = source.type.name := by
  rw [FieldItem.describe] at described
  split at described
  · cases described
  · split at described
    · cases described
    · split at described
      · cases described
      · cases described
        exact ⟨rfl, rfl⟩

/-- Each field is described with the kind and the name of its type. -/
theorem typed_of_describeFields {items : List FieldItem} (described : describeFields items = .ok fields)
    (member : (field, type) ∈ fields) : field.kind = type.kind ∧ field.typeName = type.name := by
  induction items generalizing fields with
  | nil =>
      cases described
      cases member
  | cons first items inductionHypothesis =>
      rw [describeFields] at described
      split at described
      · cases described
      · next seen ofFirst =>
          cases rest : describeFields items with
          | error error => simp [rest, Except.map] at described
          | ok others =>
              simp only [rest, Except.map, Except.ok.injEq] at described
              subst described
              rcases List.mem_append.1 member with own | later
              · obtain ⟨known, ofKnown, same⟩ := List.mem_map.1 own
                cases same
                rw [Option.mem_toList.1 ofKnown] at ofFirst
                exact typed_of_describe ofFirst
              · exact inductionHypothesis rest later

/-- The derived validator of a sound record is written. -/
theorem exists_deriveFields {rule : Rule} (sound : (item.record fields).IsSoundBut field rule)
    {plan : Option Plan}
    (compiled : (Compiler.deferring .empty).compileRecord (item.record fields) = .ok plan) :
    ∃ tokens, deriveFields item fields = .ok tokens := by
  rw [Item.record] at compiled
  rw [deriveFields, compiled]
  cases plan with
  | none => exact ⟨_, rfl⟩
  | some plan =>
      obtain ⟨body, written⟩ := sound.exists_body compiled .default
      dsimp only
      rw [written]
      exact ⟨_, rfl⟩

theorem deriveFields_error {error : CompileError}
    (stopped : (Compiler.deferring .empty).compileRecord (item.record fields) = .error error) :
    deriveFields item fields = .error (.compile error) := by
  rw [Item.record] at stopped
  rw [deriveFields, stopped]

end

/-- A bound is checked if and only if the type shows the name of its integer. -/
theorem bound_is_checked_if_shown {source : String} {tokens : List Token} {type : TypeForm}
    (written : Token.ofText? source = some tokens) (ofTokens : TypeForm.ofTokens? tokens = some type)
    (integer : type.kind = .integer) {item : Item} {fields : List (Field × TypeForm)}
    (describes : item.Describes fields) {field : Field} (member : (field, type) ∈ fields)
    {keyword text : String} (bounds : keyword = "min" ∨ keyword = "max") {bound : Int}
    (spelled : SpellsBound text bound) (inside : ⟨keyword, some text⟩ ∈ field.rules)
    (sound : (item.record fields).IsSoundBut field ⟨keyword, some text⟩) :
    ∃ name range, type.IsInteger name range ∧
      ((∃ validator, derive item = .ok validator) ↔
        (type.Shows name → range.low ≤ bound ∧ bound ≤ range.high)) ∧
      (¬(type.Shows name → range.low ≤ bound ∧ bound ≤ range.high) → ∃ error,
        derive item = .error (.compile error) ∧ error.code = "RULE_OUT_OF_RANGE" ∧
        error = .rule (plainName item.name)
          ⟨field.name, .outOfRange keyword text type.name⟩) := by
  obtain ⟨items, -, described⟩ := id describes
  obtain ⟨kind, typed⟩ := typed_of_describeFields described member
  obtain ⟨name, range, known⟩ := TypeForm.kind_eq_integer_iff.1 integer
  have ends : TypeForm.EndsIn name type.tokens := endsIn_of_ofTokens? (arePlain_of_ofText? written)
    ofTokens known.named
  have admits := known.admits_iff ends typed bound
  have listed : field ∈ (item.record fields).fields := List.mem_map_of_mem member
  rw [integer] at kind
  refine ⟨name, range, known, ?_⟩
  rw [derive_of_describes describes, ← admits, ← typed]
  have refused (outside : ¬field.Admits bound) : deriveFields item fields =
      .error (.compile (.rule (plainName item.name)
        ⟨field.name, .outOfRange keyword text field.typeName⟩)) :=
    deriveFields_error (sound.compileRecord_of_refused listed inside
      (resolve_of_not_admits _ kind bounds rfl spelled outside))
  refine ⟨?_, fun outside => ⟨_, refused outside, rfl, rfl⟩⟩
  constructor
  · rintro ⟨validator, derived⟩
    by_contra outside
    cases derived.symm.trans (refused outside)
  · intro fits
    have sets : Rule.SetsBound ⟨keyword, some text⟩ := bounds
    obtain ⟨resolution, row⟩ := exists_row_of_admits _ kind sets rfl spelled fits
    obtain ⟨plan, compiled⟩ := sound.compileRecord_of_row row
    exact exists_deriveFields sound compiled

/-- The type of the age stands in parentheses, and the bound is no value of it. -/
def ageType : TypeForm :=
  ⟨some "u8", [.group .round [.word "u8"]]⟩

def ageItem : FieldItem :=
  ⟨[⟨[.word "tagval"], .list .round [.literal "\"max(300)\""]⟩], "age", ageType⟩

def personItem : Item :=
  ⟨"Person", ⟨[], []⟩, .namedFields [ageItem]⟩

def ageField : Field :=
  ⟨"age", .integer, "(u8)", "max(300)"⟩

theorem read_ageType : ∃ tokens, Token.ofText? "(u8)" = some tokens ∧
    TypeForm.ofTokens? tokens = some ageType :=
  ⟨[.group .round [.word "u8"]], rfl, rfl⟩

theorem describes_personItem : personItem.Describes [(ageField, ageType)] :=
  ⟨[ageItem], rfl, rfl⟩

theorem rules_ageField : ageField.rules = [⟨"max", some "300"⟩] :=
  rfl

theorem spellsBound_ageField : SpellsBound "300" 300 :=
  integerIn?_word_iff.1 rfl

theorem isSoundBut_personItem :
    (personItem.record [(ageField, ageType)]).IsSoundBut ageField ⟨"max", some "300"⟩ := by
  refine ⟨fun other member => ?_, fun other member item inside apart => ?_,
    fun other member item inside => ?_⟩
  all_goals obtain rfl := List.mem_singleton.1 member
  · exact ⟨_, rfl⟩
  · rw [rules_ageField] at inside
    exact absurd (by rw [List.mem_singleton.1 inside]) apart
  · rw [rules_ageField] at inside
    rw [List.mem_singleton.1 inside]
    exact ⟨⟨"age", rfl⟩, fun target asked => by simp at asked⟩

theorem bound_is_checked_if_shown_of_personItem :
    ∃ name range, ageType.IsInteger name range ∧
      ((∃ validator, derive personItem = .ok validator) ↔
        (ageType.Shows name → range.low ≤ 300 ∧ 300 ≤ range.high)) ∧
      (¬(ageType.Shows name → range.low ≤ 300 ∧ 300 ≤ range.high) → ∃ error,
        derive personItem = .error (.compile error) ∧ error.code = "RULE_OUT_OF_RANGE" ∧
        error = .rule (plainName personItem.name)
          ⟨ageField.name, .outOfRange "max" "300" ageType.name⟩) := by
  obtain ⟨tokens, written, ofTokens⟩ := read_ageType
  exact bound_is_checked_if_shown written ofTokens rfl describes_personItem List.mem_cons_self
    (.inr rfl) spellsBound_ageField (by rw [rules_ageField]; exact List.mem_cons_self)
    isSoundBut_personItem

/-- The age is an integer of eight bits, and its bound is no such integer. -/
theorem hidden_type_admits_bound :
    (∃ tokens, Token.ofText? "(u8)" = some tokens ∧ TypeForm.ofTokens? tokens = some ageType) ∧
      ageType.kind = .integer ∧ ageType.IsInteger "u8" ⟨0, 2 ^ 8 - 1⟩ ∧
      personItem.Describes [(ageField, ageType)] ∧ ageField.rules = [⟨"max", some "300"⟩] ∧
      SpellsBound "300" 300 ∧ ¬(300 : Int) ≤ 2 ^ 8 - 1 ∧
      ∃ validator, derive personItem = .ok validator := by
  have accepted : (derive personItem).isOk = true := by decide +kernel
  refine ⟨read_ageType, rfl, ⟨rfl, by simp [FieldRules.integerTypes]⟩, describes_personItem,
    rules_ageField, spellsBound_ageField, by decide, ?_⟩
  cases derived : derive personItem with
  | ok validator => exact ⟨validator, rfl⟩
  | error error =>
      rw [derived] at accepted
      cases accepted

end Source

end FieldRules
