import FieldRules.Proofs.Json.Numeral
import FieldRules.Proofs.Plan.Attribution
import FieldRules.Proofs.Plan.Simulation

/-!
This file says how the integers of a live record are compared. A bound and a sibling are compared
with a field by their exact values, whatever their sizes and signs, and a value that is held as no
integer is reported as such and compared with nothing.
-/

namespace FieldRules

/-- The outcome of a rule on an integer field is a comparison of exact values. -/
structure ComparesExactly (site : Site) (data : Data) (outcome : Outcome) : Prop where
  rule : ∃ text, site.rule = ⟨"equals", some text⟩ ∨
    ((site.rule = ⟨"min", some text⟩ ∨ site.rule = ⟨"max", some text⟩) ∧
      ∃ bound, SpellsBound text bound)
  above : ∀ text bound value, site.rule = ⟨"min", some text⟩ → SpellsBound text bound →
    data.member? site.field = some (.integer value) → (outcome = none ↔ bound < value)
  below : ∀ text bound value, site.rule = ⟨"max", some text⟩ → SpellsBound text bound →
    data.member? site.field = some (.integer value) → (outcome = none ↔ value < bound)
  equal : ∀ target value, site.rule = ⟨"equals", some target⟩ →
    data.member? site.field = some (.integer value) →
      (outcome = none ↔ data.member? target = some (.integer value))
  /-- A sibling has to be there before the value of the field is looked at. -/
  mistyped : ∀ found, data.member? site.field = some found → (∀ value, found ≠ .integer value) →
    (∀ target, site.rule = ⟨"equals", some target⟩ → (data.member? target).isSome = true) →
      outcome = some (typeMismatch site.field .integer found)

def Site.isInteger (site : Site) : Bool :=
  site.kind == .integer

/-- The sites of the rules on the integer fields of a record. -/
def Record.integerSites (record : Record) : List Site :=
  (record.fields.flatMap fun field => field.rules.map field.site).filter Site.isInteger

/-! ### Integer checks -/

section

variable {record : Record} {field : Field} {rule : Rule} {test : FieldCheck} {data : Data}

/-- A check passes if its rule holds. -/
theorem run_eq_none_iff (row : RuleTable record field rule (.check test)) :
    test.run (field.site rule) data = none ↔ rule.holds field data = true := by
  have answers := run_answers row data
  generalize test.run (field.site rule) data = outcome at answers ⊢
  generalize rule.holds field data = passes at answers ⊢
  cases answers <;> simp

theorem holds_of_integer (kind : field.kind = .integer) {value : Int}
    (present : data.member? field.name = some (.integer value)) :
    rule.holds field data = rule.holdsOfInteger data value := by
  rw [Rule.holds, kind, present]

theorem integer?_of_spellsBound {text : String} {bound : Int} (spelled : SpellsBound text bound) :
    Text.integer? text.toList = some bound :=
  Text.integer?_eq_some_iff.2 spelled.1

/-- A value that is no integer is reported before it is compared. -/
theorem run_of_mistyped (row : RuleTable record field rule (.check test))
    (kind : field.kind = .integer) {found : Data} (present : data.member? field.name = some found)
    (mistyped : ∀ value, found ≠ .integer value)
    (sibling : ∀ target, rule = ⟨"equals", some target⟩ → (data.member? target).isSome = true) :
    test.run (field.site rule) data = some (typeMismatch field.name .integer found) := by
  have refused : found.integerIn field.name = .error (typeMismatch field.name .integer found) := by
    cases found <;> first | rfl | exact absurd rfl (mistyped _)
  have read : data.fieldValue field.name = .ok found := by rw [Data.fieldValue, present]
  cases row with
  | minValue | maxValue =>
      simp only [FieldCheck.run, Field.site, read, checkRead, refused]
  | equals _ target =>
      obtain ⟨other, known⟩ := Option.isSome_iff_exists.1 (sibling target rfl)
      have readOther : data.fieldValue target = .ok other := by rw [Data.fieldValue, known]
      simp only [FieldCheck.run, Field.site, kind, if_true, equalFields, read, readOther, checkRead,
        refused]
  | required other | email other | url other | ip other | regex other | minLength other
  | maxLength other => simp [kind] at other

theorem comparesExactly_of_row (row : RuleTable record field rule (.check test))
    (kind : field.kind = .integer) :
    ComparesExactly (field.site rule) data (test.run (field.site rule) data) where
  rule := by
    cases row with
    | minValue _ text bound spelled =>
        exact ⟨text, .inr ⟨.inl rfl, bound, integerIn?_word_iff.1 spelled⟩⟩
    | maxValue _ text bound spelled =>
        exact ⟨text, .inr ⟨.inr rfl, bound, integerIn?_word_iff.1 spelled⟩⟩
    | equals _ target => exact ⟨target, .inl rfl⟩
    | required other | email other | url other | ip other | regex other | minLength other
    | maxLength other => simp [kind] at other
  above text bound value asked spelled present := by
    rw [run_eq_none_iff row, holds_of_integer kind present, show rule = _ from asked]
    simp [Rule.holdsOfInteger, integer?_of_spellsBound spelled]
  below text bound value asked spelled present := by
    rw [run_eq_none_iff row, holds_of_integer kind present, show rule = _ from asked]
    simp [Rule.holdsOfInteger, integer?_of_spellsBound spelled]
  equal target value asked present := by
    rw [run_eq_none_iff row, holds_of_integer kind present, show rule = _ from asked]
    simp only [Rule.holdsOfInteger]
    split
    · next sibling known => simp [known, eq_comm]
    · next others => exact iff_of_false (by simp) fun known => others value known
  mistyped _ := run_of_mistyped row kind

end

/-! ### Integer rules -/

section

variable {schema : Schema} {nesting : Nesting} {record : Record} {field : Field}
  {descent : DirectDescent} {part : List Step}

/-- The steps of a rule that descends stand in its place. -/
theorem site_of_directNested {compiler : Compiler} {rule : Rule}
    (visited : compiler.directNested descent record field rule = .ok part) :
    ∀ step ∈ part, step.site = field.site rule := by
  rw [Compiler.directNested] at visited
  split at visited
  · cases visited
    exact fun step member => by rw [List.mem_singleton.1 member, Step.site]
  · split at visited
    · cases visited
    · split at visited
      · cases visited
      · next plan _ =>
          cases visited
          cases plan with
          | none => exact fun step member => absurd member List.not_mem_nil
          | some plan => exact fun step member => by rw [List.mem_singleton.1 member, Step.site]

/-- A rule on an integer field has one step, however nested records are compiled. -/
theorem integerSites_of_directRule {rule : Rule}
    (visited : Compiler.directRule ⟨schema, .builtin, nesting⟩ descent record field rule =
      .ok part) :
    (part.map Step.site).filter Site.isInteger = [field.site rule].filter Site.isInteger := by
  rw [Compiler.directRule] at visited
  split at visited
  · cases visited
  · cases visited
    rfl
  · next resolved =>
      have row : RuleTable record field rule .descend := ruleTable_of_resolve resolved
      have nested : (field.site rule).isInteger = false := by
        cases row with
        | descend kind => rw [Site.isInteger, Field.site, kind]; rfl
      rw [List.filter_singleton, nested, List.filter_eq_nil_iff.2]
      · rfl
      · intro site member
        obtain ⟨step, inside, rfl⟩ := List.mem_map.1 member
        rw [site_of_directNested visited step inside, nested]
        exact Bool.false_ne_true

/-- The steps of a plan stand for the rules on integer fields, one after the other. -/
theorem integerSites_of_directBuild {plan : Option Plan}
    (built : Compiler.directBuild ⟨schema, .builtin, nesting⟩ descent record = .ok plan) :
    ((Plan.stepsOf plan).map Step.site).filter Site.isInteger = record.integerSites := by
  obtain ⟨steps, joined, rfl⟩ := Compiler.directBuild_ok_iff.1 built
  rw [Plan.stepsOf_plan?]
  refine joinSteps_induction (motive := fun fields steps =>
    (steps.map Step.site).filter Site.isInteger =
      (fields.flatMap fun field => field.rules.map field.site).filter Site.isInteger) rfl ?_ joined
  intro field fields part others ofField rest
  rw [List.map_append, List.filter_append, rest, List.flatMap_cons, List.filter_append,
    List.append_left_inj]
  refine joinSteps_induction (motive := fun rules steps =>
    (steps.map Step.site).filter Site.isInteger = (rules.map field.site).filter Site.isInteger)
    rfl ?_ (joinSteps_of_directField ofField)
  intro rule rules part others ofRule rest
  rw [List.map_append, List.filter_append, rest, integerSites_of_directRule ofRule,
    ← List.filter_append, List.singleton_append, List.map_cons]

end

/-! ### Visits -/

/-- A step is the one that a rule of the table gives to its field. -/
inductive Step.Stands (schema : Schema) : Step → Prop
  | check {record : Record} {field : Field} {rule : Rule} {test : FieldCheck}
      (row : RuleTable record field rule (.check test)) :
      Stands schema (.check (field.site rule) test)
  | nested {field : Field} (kind : field.kind = .nested) (rule : Rule) {plan : Plan}
      (compiled : (Compiler.ofSchema schema).compile field.typeName = .ok (some plan)) :
      Stands schema (.nested (field.site rule) plan.record plan.namespaceName plan.steps)
  | deferred {field : Field} (kind : field.kind = .nested) (rule : Rule) :
      Stands schema (.deferred (field.site rule) field.typeName)

section

variable {schema : Schema} {record : Record}

theorem StepOf.stands {step : Step} (stepOf : StepOf schema record step) : step.Stands schema := by
  cases stepOf with
  | check _ row => exact .check row
  | nested _ kind rule compiled => exact .nested kind rule compiled

theorem Occurrence.Gives.stands {place : Occurrence} {step : Step} (gives : place.Gives step) :
    step.Stands schema := by
  cases gives with
  | check row => exact .check row
  | deferred row =>
      obtain ⟨record, field, rule⟩ := place
      cases row with
      | descend kind => exact .deferred kind _

/-- Each step is given by some rule. -/
theorem exists_gives {places : List Occurrence} {steps : List Step}
    (given : List.Forall₂ Occurrence.Gives places steps) {step : Step} (member : step ∈ steps) :
    ∃ place ∈ places, place.Gives step := by
  obtain ⟨index, inside, rfl⟩ := List.getElem_of_mem member
  have fewer : index < places.length := by rw [given.length_eq]; exact inside
  exact ⟨_, List.getElem_mem fewer, given.get fewer inside⟩

theorem stands_of_compileRecord {nesting : Nesting} {plan : Option Plan}
    (compiled : Compiler.compileRecord ⟨schema, .builtin, nesting⟩ record = .ok plan) :
    ∀ step ∈ Plan.stepsOf plan, step.Stands schema := by
  intro step member
  cases nesting with
  | resolve =>
      cases plan with
      | none => cases member
      | some plan =>
          exact (stepOf_of_directBuild (Compiler.directBuild_of_compileRecord compiled) step
            member).stands
  | defer =>
      obtain ⟨steps, rfl, given⟩ := gives_of_compileRecord compiled
      rw [Plan.stepsOf_plan?] at member
      obtain ⟨place, -, gives⟩ := exists_gives given member
      exact gives.stands

theorem mem_visitsAll_iff {data : Data} {steps : List Step} {visit : Visit} :
    visit ∈ Step.visitsAll data steps ↔ ∃ step ∈ steps, visit ∈ step.visits data := by
  induction steps with
  | nil => simp [Step.visitsAll]
  | cons step steps inductionHypothesis => simp [Step.visitsAll, inductionHypothesis]

/-- Each step of a plan is visited on the whole record. -/
theorem sublist_visitsAll (data : Data) (steps : List Step) :
    (steps.map (Visit.mk data)).Sublist (Step.visitsAll data steps) := by
  induction steps with
  | nil => exact .slnil
  | cons step steps inductionHypothesis =>
      have first : [Visit.mk data step].Sublist (step.visits data) := by
        rw [List.singleton_sublist]
        cases step <;> simp [Step.visits]
      exact first.append inductionHypothesis

/-- What a plan visits stands in a plan, and the data below are smaller. -/
theorem stands_of_visit (schema : Schema) (data : Data) {steps : List Step}
    (stand : ∀ step ∈ steps, step.Stands schema) :
    ∀ visit ∈ Step.visitsAll data steps, visit.step.Stands schema := by
  intro visit member
  obtain ⟨step, inside, member⟩ := mem_visitsAll_iff.1 member
  have stands := stand step inside
  cases stands with
  | check row =>
      rw [Step.visits, List.mem_singleton] at member
      rw [member]
      exact .check row
  | deferred kind rule =>
      rw [Step.visits, List.mem_singleton] at member
      rw [member]
      exact .deferred kind rule
  | @nested field kind rule plan compiled =>
      rw [Step.visits, List.mem_cons] at member
      rcases member with rfl | member
      · exact .nested kind rule compiled
      · split at member
        · next members present =>
            obtain ⟨record, found, -⟩ := Compiler.compile_ok_iff.1 compiled
            have smaller := Data.sizeOf_member? present
            exact stands_of_visit schema (.table members)
              (fun step inside => (stepOf_of_compile found compiled step inside).stands)
              visit member
        · cases member
termination_by sizeOf data
decreasing_by
  exact smaller

/-- A visit of an integer field compares exact values. -/
theorem comparesExactly_of_stands {visit : Visit} (stands : visit.step.Stands schema)
    (integer : visit.step.site.isInteger = true) :
    ComparesExactly visit.step.site visit.data visit.message? := by
  obtain ⟨data, step⟩ := visit
  rw [Site.isInteger, beq_iff_eq] at integer
  cases stands with
  | check row => exact comparesExactly_of_row row integer
  | nested kind | deferred kind => exact absurd (kind.symm.trans integer) (by decide)

end

/-- Steps on integer fields compare exact values, and each has one rule. -/
theorem integers_compare_exactly {schema : Schema} {nesting : Nesting} {record : Record}
    {plan : Option Plan}
    (compiled : Compiler.compileRecord ⟨schema, .builtin, nesting⟩ record = .ok plan) :
    ((Plan.stepsOf plan).map Step.site).filter Site.isInteger = record.integerSites ∧
    (∀ data,
      ((Plan.stepsOf plan).map (Visit.mk data)).Sublist
        (Step.visitsAll data (Plan.stepsOf plan)) ∧
      (Plan.report plan data).messages =
        (Step.visitsAll data (Plan.stepsOf plan)).filterMap Visit.message? ∧
      ∀ visit ∈ Step.visitsAll data (Plan.stepsOf plan), visit.step.site.isInteger = true →
        ComparesExactly visit.step.site visit.data visit.message?) ∧
    ∀ text number rest, Json.readNumber? text = some (number, rest) →
      ∃ numeral, text = numeral ++ rest ∧ Json.Holds numeral number := by
  have stand := stands_of_compileRecord compiled
  refine ⟨integerSites_of_directBuild (Compiler.compileRecord_eq_direct _ record ▸ compiled),
    fun data => ⟨sublist_visitsAll data _, ?_, fun visit member integer => ?_⟩,
    fun _ _ _ => Json.readNumber?_spec⟩
  · cases plan with
    | none => rfl
    | some plan => exact Step.runAll_messages_eq_visits data plan.steps
  · exact comparesExactly_of_stands (stands_of_visit schema data stand visit member) integer

/-- The bounds of a meter are the greatest and the least that can be written. -/
def meter : Record :=
  ⟨"Meter", "grid",
    [⟨"count", .integer, "", "min(-09223372036854775808),max(+9223372036854775807),equals(limit)"⟩,
      ⟨"limit", .integer, "u64", ""⟩]⟩

def meterPlan : Plan :=
  ⟨"Meter", "grid",
    [.check ⟨"count", .integer, ⟨"min", some "-09223372036854775808"⟩⟩ (.greaterThan (-2 ^ 63)),
      .check ⟨"count", .integer, ⟨"max", some "+9223372036854775807"⟩⟩ (.lessThan (2 ^ 63 - 1)),
      .check ⟨"count", .integer, ⟨"equals", some "limit"⟩⟩ (.equalsField "limit")]⟩

theorem compileRecord_meter :
    Compiler.compileRecord ⟨⟨[]⟩, .builtin, .resolve⟩ meter = .ok (some meterPlan) := by
  rw [Compiler.compileRecord_eq_direct]
  rfl

/-- The greatest integer is above both bounds, and a float is no integer. -/
theorem integers_compare_exactly_of_meter :
    Compiler.compileRecord ⟨⟨[]⟩, .builtin, .resolve⟩ meter = .ok (some meterPlan) ∧
    SpellsBound "-09223372036854775808" (-2 ^ 63) ∧
    SpellsBound "+9223372036854775807" (2 ^ 63 - 1) ∧
    (∀ step ∈ meterPlan.steps, ∀ other,
      ComparesExactly step.site (.table [("count", other), ("limit", .integer (2 ^ 64 - 1))])
        (Visit.message? ⟨.table [("count", other), ("limit", .integer (2 ^ 64 - 1))], step⟩)) ∧
    (meterPlan.execute
      (.table [("count", .integer (2 ^ 64 - 1)), ("limit", .integer (2 ^ 64 - 1))])).messages.map
        Message.code = ["max"] ∧
    (meterPlan.execute
      (.table [("count", .float), ("limit", .integer (2 ^ 64 - 1))])).messages.map
        Message.code = ["type_mismatch", "type_mismatch", "type_mismatch"] := by
  obtain ⟨-, each, -⟩ := integers_compare_exactly compileRecord_meter
  refine ⟨compileRecord_meter, integerIn?_word_iff.1 rfl, integerIn?_word_iff.1 rfl,
    fun step member other => ?_, rfl, rfl⟩
  obtain ⟨visited, -, exactly⟩ := each (.table [("count", other), ("limit", .integer (2 ^ 64 - 1))])
  have integer : step.site.isInteger = true := by
    have all : ∀ step ∈ meterPlan.steps, step.site.isInteger = true := by
      simp [meterPlan, Step.site, Site.isInteger]
    exact all step member
  exact exactly _ (visited.subset (List.mem_map_of_mem member)) integer

end FieldRules
