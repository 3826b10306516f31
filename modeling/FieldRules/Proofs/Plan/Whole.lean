import FieldRules.Proofs.Plan.Table
import Mathlib.Data.List.Forall2

/-!
This file compares the compilation of a whole schema with the compilations of its records.
-/

namespace FieldRules

/-- The first occurrences are what is left after the duplicates are erased. -/
theorem firstSeen_eq_eraseDups (texts : List String) : firstSeen texts = texts.eraseDups := by
  have gathered (seen : List String) : texts.foldl
      (fun seen text => if seen.contains text then seen else seen ++ [text]) seen =
        seen ++ (texts.removeAll seen).eraseDups := by
    induction texts generalizing seen with
    | nil => simp
    | cons text texts inductionHypothesis =>
        rw [List.foldl_cons, inductionHypothesis, List.cons_removeAll]
        cases known : seen.contains text with
        | true => simp
        | false =>
            have removed : texts.removeAll (seen ++ [text]) =
                (texts.removeAll seen).filter fun other => !other == text := by
              simp only [List.removeAll, List.filter_filter]
              congr 1
              funext other
              by_cases same : other = text <;> simp [same]
            simp [List.eraseDups_cons, removed]
  rw [firstSeen, gathered, List.nil_append, List.removeAll_nil]

/-- The first text with a property is the same with and without duplicates. -/
theorem find?_eraseDups (holds : String → Bool) :
    ∀ texts : List String, texts.eraseDups.find? holds = texts.find? holds
  | [] => rfl
  | text :: texts => by
      rw [List.eraseDups_cons, List.find?_cons, List.find?_cons]
      cases found : holds text with
      | true => rfl
      | false =>
          have skipped : (fun other => decide ((!other == text) = true ∧ holds other = true)) =
              holds := by
            funext other
            by_cases same : other = text <;> simp [same, found]
          simp only [find?_eraseDups holds (texts.filter fun other => !other == text),
            List.find?_filter, skipped]
termination_by texts => texts.length
decreasing_by exact Nat.lt_succ_of_le (List.length_filter_le _ _)

/-- Each item on the left is related to an item on the right. -/
theorem exists_right_of_forall₂ {Item Other : Type} {relation : Item → Other → Prop}
    {items : List Item} {others : List Other} (related : List.Forall₂ relation items others)
    {item : Item} (member : item ∈ items) : ∃ other ∈ others, relation item other := by
  induction related with
  | nil => cases member
  | cons first _ inductionHypothesis =>
      rcases List.mem_cons.1 member with rfl | later
      · exact ⟨_, List.mem_cons_self, first⟩
      · obtain ⟨other, otherMember, holds⟩ := inductionHypothesis later
        exact ⟨other, List.mem_cons_of_mem _ otherMember, holds⟩

namespace Compiler

/-- The plan of a record that has one. -/
def planned? (compiler : Compiler) (name : String) : Option Plan :=
  match compiler.compile name with
  | .ok plan => plan
  | .error _ => none

theorem planned?_of_compile {compiler : Compiler} {name : String} {plan : Option Plan}
    (compiled : compiler.compile name = .ok plan) : compiler.planned? name = plan := by
  rw [planned?, compiled]

theorem isSome_planned?_iff {compiler : Compiler} {name : String} :
    (compiler.planned? name).isSome = true ↔ ∃ plan, compiler.compile name = .ok (some plan) := by
  rw [planned?]
  cases compiler.compile name <;> simp [Option.isSome_iff_exists]

theorem plan_record {compiler : Compiler} {name : String} {plan : Plan}
    (planned : compiler.planned? name = some plan) : plan.record = name := by
  rw [planned?] at planned
  split at planned
  · next compiled =>
      rw [compile_eq_direct, planned] at compiled
      obtain ⟨record, found, _, built⟩ := direct_ok compiled
      obtain ⟨steps, -, ofSteps⟩ := directBuild_ok_iff.1 built
      obtain ⟨-, rfl⟩ := Record.plan?_eq_some_iff.1 ofSteps
      exact Schema.record?_name found
  · cases planned

def fails (compiler : Compiler) (name : String) : Bool :=
  !(compiler.compile name).isOk

theorem fails_eq_false_iff {compiler : Compiler} {name : String} :
    compiler.fails name = false ↔ ∃ plan, compiler.compile name = .ok plan := by
  rw [fails]
  cases compiler.compile name <;> simp [Except.toBool]

theorem fails_eq_true_iff {compiler : Compiler} {name : String} :
    compiler.fails name = true ↔ ∃ error, compiler.compile name = .error error := by
  rw [fails]
  cases compiler.compile name <;> simp [Except.toBool]

/-- A list of names has all plans or the error of the first failing record. -/
theorem compileNames_cases {compiler : Compiler} (names : List String) {finished : Finished}
    (sound : compiler.TableSound finished) :
    match names.find? compiler.fails with
    | none => compiler.compileNames names finished = .ok (names.filterMap compiler.planned?)
    | some name => ∃ error, compiler.compile name = .error error ∧
        compiler.compileNames names finished = .error error := by
  induction names generalizing finished with
  | nil => rfl
  | cons name names inductionHypothesis =>
      have first : Agrees compiler.TableSound (compiler.visit [] name finished)
          (compiler.direct [] name) := visit_agrees sound (by simp)
      rw [← compile_eq_direct] at first
      rw [List.find?_cons, List.filterMap_cons, compileNames]
      generalize visited : compiler.visit [] name finished = run at first ⊢
      generalize compiled : compiler.compile name = alone at first
      cases first with
      | error error =>
          have failing : compiler.fails name = true := fails_eq_true_iff.2 ⟨error, compiled⟩
          simp only [failing]
          exact ⟨error, compiled, rfl⟩
      | result plan last kept =>
          have passing : compiler.fails name = false := fails_eq_false_iff.2 ⟨plan, compiled⟩
          have rest := inductionHypothesis kept
          simp only [passing, planned?_of_compile compiled]
          split
          · next found =>
              rw [found] at rest
              rw [rest]
              cases plan <;> rfl
          · next name found =>
              rw [found] at rest
              obtain ⟨error, failed, stopped⟩ := rest
              exact ⟨error, failed, by rw [stopped]⟩

/-- The names of a schema, each one at its first place. -/
def names (compiler : Compiler) : List String :=
  (compiler.schema.records.map Record.name).eraseDups

theorem mem_names_iff {compiler : Compiler} {name : String} :
    name ∈ compiler.names ↔ ∃ record ∈ compiler.schema.records, record.name = name := by
  rw [names, List.mem_eraseDups, List.mem_map]

theorem compileAll_cases (compiler : Compiler) :
    match compiler.names.find? compiler.fails with
    | none => compiler.compileAll = .ok ⟨compiler.names.filterMap compiler.planned?⟩
    | some name => ∃ error, compiler.compile name = .error error ∧
        compiler.compileAll = .error error := by
  have gathered := compileNames_cases compiler.names compiler.tableSound_nil
  rw [compileAll, firstSeen_eq_eraseDups, ← names]
  split
  · next found =>
      rw [found] at gathered
      rw [gathered]
      rfl
  · next name found =>
      rw [found] at gathered
      obtain ⟨error, failed, stopped⟩ := gathered
      exact ⟨error, failed, by rw [stopped]; rfl⟩

/-- The whole schema depends only on its names and on the results of its records. -/
theorem compileAll_congr {compiler other : Compiler} (listed : other.names = compiler.names)
    (same : ∀ name ∈ compiler.names, other.compile name = compiler.compile name) :
    other.compileAll = compiler.compileAll := by
  have fails : ∀ name ∈ compiler.names, other.fails name = compiler.fails name := by
    intro name member
    rw [Compiler.fails, Compiler.fails, same name member]
  have planned : ∀ name ∈ compiler.names, other.planned? name = compiler.planned? name := by
    intro name member
    rw [Compiler.planned?, Compiler.planned?, same name member]
  have sought : other.names.find? other.fails = compiler.names.find? compiler.fails := by
    rw [listed, ← List.head?_filter, ← List.head?_filter, List.filter_congr fails]
  have whole := compileAll_cases compiler
  have otherWhole := compileAll_cases other
  rw [sought] at otherWhole
  cases found : compiler.names.find? compiler.fails with
  | none =>
      rw [found] at whole otherWhole
      rw [whole, otherWhole, listed, List.filterMap_congr planned]
  | some name =>
      rw [found] at whole otherWhole
      obtain ⟨error, failed, stopped⟩ := whole
      obtain ⟨otherError, otherFailed, otherStopped⟩ := otherWhole
      rw [same name (List.mem_of_find?_eq_some found), failed] at otherFailed
      cases otherFailed
      rw [stopped, otherStopped]

/-- The first name that fails stops the whole schema. -/
theorem compileAll_of_split {compiler : Compiler} {before after : List String} {name : String}
    {error : CompileError} (split : compiler.names = before ++ name :: after)
    (passing : ∀ earlier ∈ before, ∃ plan, compiler.compile earlier = .ok plan)
    (failed : compiler.compile name = .error error) : compiler.compileAll = .error error := by
  have sought : compiler.names.find? compiler.fails = some name := by
    refine List.find?_eq_some_iff_append.2
      ⟨fails_eq_true_iff.2 ⟨error, failed⟩, before, after, split, fun earlier member => ?_⟩
    simpa using fails_eq_false_iff.2 (passing earlier member)
  have whole := compileAll_cases compiler
  rw [sought] at whole
  obtain ⟨other, alone, stopped⟩ := whole
  cases failed.symm.trans alone
  exact stopped

/-- The set of all plans has the plan of each record. -/
theorem plan?_eq_planned? {compiler : Compiler} {names : List String} {name : String}
    (member : name ∈ names) :
    (PlanSet.mk (names.filterMap compiler.planned?)).plan? name = compiler.planned? name := by
  rw [PlanSet.plan?, List.find?_filterMap]
  have sought (other : String) :
      (compiler.planned? other).any (fun plan => plan.record == name) = true ↔
        other = name ∧ (compiler.planned? name).isSome = true := by
    cases planned : compiler.planned? other with
    | none =>
        constructor
        · intro absent
          cases absent
        · rintro ⟨rfl, present⟩
          simp [planned] at present
    | some plan =>
        rw [Option.any_some, beq_iff_eq, plan_record planned]
        constructor
        · rintro rfl
          exact ⟨rfl, by simp [planned]⟩
        · exact fun same => same.1
  cases found : names.find? fun other =>
      (compiler.planned? other).any fun plan => plan.record == name with
  | none =>
      have unfound := List.find?_eq_none.1 found name member
      rw [sought] at unfound
      have unplanned : compiler.planned? name = none := by simpa using unfound
      rw [unplanned, Option.bind_none]
  | some other =>
      have same := List.find?_some found
      rw [sought] at same
      rw [same.1, Option.bind_some]

/-- Each record of the schema has a result of its own. -/
def AllCompile (compiler : Compiler) : Prop :=
  ∀ record ∈ compiler.schema.records, ∃ plan, compiler.compile record.name = .ok plan

/-- The error is that of the first record of the schema that has one. -/
def FirstError (compiler : Compiler) (error : CompileError) : Prop :=
  ∃ before record after, compiler.schema.records = before ++ record :: after ∧
    (∀ earlier ∈ before, ∃ plan, compiler.compile earlier.name = .ok plan) ∧
    compiler.compile record.name = .error error

theorem names_find?_fails (compiler : Compiler) :
    compiler.names.find? compiler.fails =
      (compiler.schema.records.find? (compiler.fails ∘ Record.name)).map Record.name := by
  rw [names, find?_eraseDups, List.find?_map]

theorem compileAll_of_allCompile {compiler : Compiler} (passing : compiler.AllCompile) :
    compiler.compileAll = .ok ⟨compiler.names.filterMap compiler.planned?⟩ := by
  have whole := compileAll_cases compiler
  have unfound : compiler.schema.records.find? (compiler.fails ∘ Record.name) = none := by
    rw [List.find?_eq_none]
    intro record member
    simpa using fails_eq_false_iff.2 (passing record member)
  rwa [names_find?_fails, unfound] at whole

/-- If each name of the schema has a plan, the set holds these plans. -/
theorem compileAll_of_plans {compiler : Compiler} {plans : List Plan}
    (each : List.Forall₂ (fun name plan => compiler.compile name = .ok (some plan)) compiler.names
      plans) : compiler.compileAll = .ok ⟨plans⟩ := by
  have passing : compiler.AllCompile := by
    intro record member
    have listed : record.name ∈ compiler.names := mem_names_iff.2 ⟨record, member, rfl⟩
    obtain ⟨plan, -, compiled⟩ := exists_right_of_forall₂ each listed
    exact ⟨some plan, compiled⟩
  have gathered : compiler.names.filterMap compiler.planned? = plans := by
    generalize compiler.names = names at each
    induction each with
    | nil => rfl
    | cons compiled _ inductionHypothesis =>
        rw [List.filterMap_cons, planned?_of_compile compiled, inductionHypothesis]
  rw [compileAll_of_allCompile passing, gathered]

theorem compileAll_of_firstError {compiler : Compiler} {error : CompileError}
    (first : compiler.FirstError error) : compiler.compileAll = .error error := by
  obtain ⟨before, record, after, split, passing, failed⟩ := first
  have whole := compileAll_cases compiler
  have found : compiler.schema.records.find? (compiler.fails ∘ Record.name) = some record := by
    rw [List.find?_eq_some_iff_append]
    refine ⟨fails_eq_true_iff.2 ⟨error, failed⟩, before, after, split, fun earlier member => ?_⟩
    simpa using fails_eq_false_iff.2 (passing earlier member)
  rw [names_find?_fails, found] at whole
  obtain ⟨other, alone, stopped⟩ := whole
  cases alone.symm.trans failed
  exact stopped

theorem allCompile_or_firstError (compiler : Compiler) :
    compiler.AllCompile ∨ ∃ error, compiler.FirstError error := by
  cases found : compiler.schema.records.find? (compiler.fails ∘ Record.name) with
  | none =>
      refine .inl fun record member => fails_eq_false_iff.1 ?_
      simpa using List.find?_eq_none.1 found record member
  | some record =>
      obtain ⟨failing, before, after, split, passing⟩ := List.find?_eq_some_iff_append.1 found
      obtain ⟨error, failed⟩ := fails_eq_true_iff.1 failing
      refine .inr ⟨error, before, record, after, split, fun earlier member => ?_, failed⟩
      exact fails_eq_false_iff.1 (by simpa using passing earlier member)

/-- The error of a whole schema is that of its first record that fails. -/
theorem firstError_of_compileAll {compiler : Compiler} {error : CompileError}
    (stopped : compiler.compileAll = .error error) : compiler.FirstError error := by
  rcases allCompile_or_firstError compiler with passing | ⟨other, first⟩
  · cases (compileAll_of_allCompile passing).symm.trans stopped
  · cases (compileAll_of_firstError first).symm.trans stopped
    exact first

/-- A schema has a set of plans only if each of its records has a result. -/
theorem allCompile_of_compileAll {compiler : Compiler} {set : PlanSet}
    (compiled : compiler.compileAll = .ok set) : compiler.AllCompile := by
  rcases allCompile_or_firstError compiler with passing | ⟨error, first⟩
  · exact passing
  · cases (compileAll_of_firstError first).symm.trans compiled

/-- The set of plans of a schema has the plan of each of its records. -/
theorem compile_eq_plan? {compiler : Compiler} {set : PlanSet}
    (compiled : compiler.compileAll = .ok set) {record : Record}
    (member : record ∈ compiler.schema.records) :
    compiler.compile record.name = .ok (set.plan? record.name) := by
  have passing := allCompile_of_compileAll compiled
  cases (compileAll_of_allCompile passing).symm.trans compiled
  obtain ⟨plan, alone⟩ := passing record member
  have listed : record.name ∈ compiler.names := mem_names_iff.2 ⟨record, member, rfl⟩
  rw [plan?_eq_planned? listed, planned?_of_compile alone, alone]

/-- Each plan of the set is the plan of its record. -/
theorem compile_of_mem {compiler : Compiler} {set : PlanSet}
    (compiled : compiler.compileAll = .ok set) {plan : Plan} (member : plan ∈ set.plans) :
    compiler.compile plan.record = .ok (some plan) := by
  have passing := allCompile_of_compileAll compiled
  cases (compileAll_of_allCompile passing).symm.trans compiled
  obtain ⟨name, listed, planned⟩ := List.mem_filterMap.1 member
  rw [plan_record planned]
  obtain ⟨record, known, rfl⟩ := mem_names_iff.1 listed
  obtain ⟨result, alone⟩ := passing record known
  rw [alone, ← planned, planned?_of_compile alone]

/-- A whole schema compiles if and only if each of its records does. -/
theorem compileAll_agrees_with_compile (compiler : Compiler) :
    ((∃ set, compiler.compileAll = .ok set) ↔ compiler.AllCompile) ∧
    (∀ set, compiler.compileAll = .ok set →
      set.plans = (compiler.schema.records.map Record.name).eraseDups.filterMap
        compiler.planned? ∧
      ∀ record ∈ compiler.schema.records,
        compiler.compile record.name = .ok (set.plan? record.name)) ∧
    ∀ error, compiler.compileAll = .error error ↔ compiler.FirstError error := by
  refine ⟨⟨?_, fun passing => ⟨_, compileAll_of_allCompile passing⟩⟩, fun set compiled => ?_,
    fun error => ⟨firstError_of_compileAll, compileAll_of_firstError⟩⟩
  · rintro ⟨set, compiled⟩
    exact allCompile_of_compileAll compiled
  · refine ⟨?_, fun record => compile_eq_plan? compiled⟩
    cases (compileAll_of_allCompile (allCompile_of_compileAll compiled)).symm.trans compiled
    rfl

end Compiler

end FieldRules
