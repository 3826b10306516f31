import FieldRules.Proofs.Command.Writing
import FieldRules.Proofs.Generator.Identifier

/-!
This file shows that a run of the generator fails before it writes. All files are generated before
the first of them is written, so a plan that does not compile or has no text leaves the store as it
was, and so does a schema without plans.
-/

namespace FieldRules

open Identifier (IsSpelled)

/-! ### Names of plans -/

/-- A plan writes the names of its record, its fields and their siblings. -/
inductive Plan.Writes (plan : Plan) : String → Prop
  | record : Writes plan plan.record
  | field {step : Step} (member : step ∈ plan.steps) : Writes plan step.site.field
  | sibling {site : Site} {target : String}
      (member : .check site (.equalsField target) ∈ plan.steps) : Writes plan target

theorem Step.mem_statement_names_iff {step : Step} {name : String} :
    name ∈ step.statement.names ↔
      name = step.site.field ∨ ∃ site, step = .check site (.equalsField name) := by
  rw [Statement.mem_names_iff, Statement.field_step]
  refine or_congr_right ⟨?_, ?_⟩
  · rintro ⟨field, compares⟩
    cases step with
    | check site test =>
        cases compares
        exact ⟨site, rfl⟩
    | nested | deferred => cases compares
  · rintro ⟨site, rfl⟩
    exact ⟨site.field, rfl⟩

/-- The written names are those that an implementation spells as identifiers. -/
theorem Plan.mem_names_iff {plan : Plan} {name : String} :
    name ∈ plan.names ↔ plan.Writes name := by
  simp only [names, List.mem_cons, List.mem_flatMap, Step.mem_statement_names_iff]
  constructor
  · rintro (rfl | ⟨step, member, rfl | ⟨site, rfl⟩⟩)
    · exact .record
    · exact .field member
    · exact .sibling member
  · rintro (_ | member | member)
    · exact .inl rfl
    · exact .inr ⟨_, member, .inl rfl⟩
    · exact .inr ⟨_, member, .inr ⟨_, rfl⟩⟩

/-! ### Errors of the generator -/

/-- A text is refused for a name of one of its plans. -/
theorem Plan.exists_of_implementations_error {config : GeneratorConfig} {plans : List Plan}
    {error : CompileError} (failed : implementations config plans = .error error) :
    ∃ plan ∈ plans, plan.implementation config = .error error := by
  induction plans with
  | nil => cases failed
  | cons plan plans inductionHypothesis =>
      rw [implementations] at failed
      split at failed
      · next refused =>
          cases failed
          exact ⟨plan, List.mem_cons_self, refused⟩
      · split at failed
        · next rest =>
            cases failed
            obtain ⟨other, member, refused⟩ := inductionHypothesis rest
            exact ⟨other, List.mem_cons_of_mem _ member, refused⟩
        · cases failed

theorem GeneratedFile.exists_of_ofGroups_error {config : GeneratorConfig}
    {groups : List (String × List Plan)} {error : CompileError}
    (failed : ofGroups config groups = .error error) :
    ∃ group ∈ groups, ∃ plan ∈ group.2, plan.implementation config = .error error := by
  induction groups with
  | nil => cases failed
  | cons group groups inductionHypothesis =>
      rw [ofGroups] at failed
      split at failed
      · next refused =>
          cases failed
          refine ⟨group, List.mem_cons_self, Plan.exists_of_implementations_error ?_⟩
          rw [contentsOf] at refused
          cases written : Plan.implementations config group.2 <;> simp_all [Except.map]
      · split at failed
        · next rest =>
            cases failed
            obtain ⟨other, member, refused⟩ := inductionHypothesis rest
            exact ⟨other, List.mem_cons_of_mem _ member, refused⟩
        · cases failed

section

variable {schema : Schema} {config : GeneratorConfig}

/-- The generator fails with the error of the compiler or a name of a plan. -/
theorem generate_error_cases {error : CompileError}
    (failed : generate schema config = .error error) :
    (Compiler.ofSchema schema).compileAll = .error error ∨
      ∃ set, (Compiler.ofSchema schema).compileAll = .ok set ∧ ∃ plan ∈ set.plans, ∃ name,
        plan.Writes name ∧ ¬IsSpelled name ∧ error = .invalidIdentifier plan.record name := by
  rw [generate] at failed
  split at failed
  · next stopped =>
      cases failed
      exact .inl stopped
  · next set compiled =>
      obtain ⟨group, grouped, plan, inside, refused⟩ :=
        GeneratedFile.exists_of_ofGroups_error failed
      rw [PlanSet.byNamespace_eq] at grouped
      obtain ⟨name, -, rfl⟩ := List.mem_map.1 grouped
      obtain ⟨blamed, listed, unspelled, rfl⟩ := Plan.exists_name_of_implementation_error refused
      exact .inr ⟨set, compiled, plan, (PlanSet.mem_within_iff.1 inside).1, blamed,
        Plan.mem_names_iff.1 listed, unspelled, rfl⟩

theorem generate_of_compileAll_error {error : CompileError}
    (stopped : (Compiler.ofSchema schema).compileAll = .error error) :
    generate schema config = .error error := by
  rw [generate, stopped]

theorem generate_of_planless (compiled : (Compiler.ofSchema schema).compileAll = .ok ⟨[]⟩) :
    generate schema config = .ok [] :=
  generate_ok_iff.2 ⟨_, compiled, .nil⟩

/-- A name that is not spelled stops the generator, whatever else would be written. -/
theorem generate_of_unspelled {set : PlanSet} {plan : Plan} {name : String}
    (compiled : (Compiler.ofSchema schema).compileAll = .ok set) (member : plan ∈ set.plans)
    (writes : plan.Writes name) (unspelled : ¬IsSpelled name) :
    ∃ blamed ∈ set.plans, ∃ other, blamed.Writes other ∧ ¬IsSpelled other ∧
      generate schema config = .error (.invalidIdentifier blamed.record other) := by
  cases generated : generate schema config with
  | ok files =>
      obtain ⟨other, again, spelled⟩ := exists_generate_iff.1 ⟨files, generated⟩
      cases again.symm.trans compiled
      exact absurd (spelled plan member name (Plan.mem_names_iff.2 writes)) unspelled
  | error error =>
      rcases generate_error_cases generated with
        stopped | ⟨other, again, blamed, inside, further, written, refused, rfl⟩
      · cases stopped.symm.trans compiled
      · cases again.symm.trans compiled
        exact ⟨blamed, inside, further, written, refused, rfl⟩

end

/-! ### Runs -/

namespace Command

section

variable {store : FileStore} {settings : Settings} {manifest outDir : String}
  {runtimePath : Option String} {noHeader : Bool} {schema : Schema}

/-- The settings of a run are those of the program under the switches of the command. -/
theorem runTask_generate (loaded : loadManifest store manifest = .ok schema) :
    runTask store settings (.generate manifest outDir runtimePath noHeader) =
      writeSchema store schema (configWith settings.generator runtimePath noHeader) outDir := by
  rw [runTask, runGenerate, loaded]

theorem writeSchema_of_error {config : GeneratorConfig} {error : CompileError}
    (failed : generate schema config = .error error) :
    writeSchema store schema config outDir = .failed (.compile error) "" store := by
  rw [writeSchema, failed]

theorem writeSchema_of_nil {config : GeneratorConfig}
    (generated : generate schema config = .ok []) :
    writeSchema store schema config outDir =
      .success "no validation tags found; nothing written\n" store := by
  rw [writeSchema, generated]

/-- A run that changes the store has generated all its files. -/
theorem generate_of_store_ne {config : GeneratorConfig}
    (changed : (writeSchema store schema config outDir).store ≠ store) :
    ∃ file files, generate schema config = .ok (file :: files) := by
  cases generated : generate schema config with
  | error error => exact absurd (by rw [writeSchema_of_error generated]; rfl) changed
  | ok files =>
      cases files with
      | nil => exact absurd (by rw [writeSchema_of_nil generated]; rfl) changed
      | cons file files => exact ⟨file, files, rfl⟩

/-- A run that fails before all files are generated leaves the store as it was. -/
theorem generation_fails_before_writing (settings : Settings) (outDir : String)
    (runtimePath : Option String) (noHeader : Bool)
    (loaded : loadManifest store manifest = .ok schema) :
    (∀ error, (Compiler.ofSchema schema).compileAll = .error error →
      runTask store settings (.generate manifest outDir runtimePath noHeader) =
        .failed (.compile error) "" store) ∧
    (∀ set, (Compiler.ofSchema schema).compileAll = .ok set →
      ∀ plan ∈ set.plans, ∀ name, plan.Writes name → ¬IsSpelled name →
        ∃ blamed ∈ set.plans, ∃ other, blamed.Writes other ∧ ¬IsSpelled other ∧
          runTask store settings (.generate manifest outDir runtimePath noHeader) =
            .failed (.compile (.invalidIdentifier blamed.record other)) "" store) ∧
    ((Compiler.ofSchema schema).compileAll = .ok ⟨[]⟩ →
      runTask store settings (.generate manifest outDir runtimePath noHeader) =
        .success "no validation tags found; nothing written\n" store) ∧
    ((runTask store settings (.generate manifest outDir runtimePath noHeader)).store ≠ store →
      ∃ set, (Compiler.ofSchema schema).compileAll = .ok set ∧ set.plans ≠ [] ∧
        ∀ plan ∈ set.plans, ∀ name, plan.Writes name → IsSpelled name) := by
  rw [runTask_generate loaded]
  refine ⟨fun error stopped => writeSchema_of_error (generate_of_compileAll_error stopped),
    fun set compiled plan member name writes unspelled => ?_,
    fun compiled => writeSchema_of_nil (generate_of_planless compiled), fun changed => ?_⟩
  · obtain ⟨blamed, inside, other, written, refused, failed⟩ :=
      generate_of_unspelled compiled member writes unspelled
    exact ⟨blamed, inside, other, written, refused, writeSchema_of_error failed⟩
  · obtain ⟨file, files, generated⟩ := generate_of_store_ne changed
    obtain ⟨set, compiled, spelled⟩ := exists_generate_iff.1 ⟨_, generated⟩
    refine ⟨set, compiled, fun planless => ?_, fun plan member name writes =>
      spelled plan member name (Plan.mem_names_iff.2 writes)⟩
    obtain ⟨plans⟩ := set
    cases planless
    cases generated.symm.trans (generate_of_planless compiled)

end

/-- The first record can be written, and a field of the second one cannot. -/
def fairManifest : String :=
  "[[[\"Stand\",\"fair\",[[\"title\",\"text\",\"\",\"req\"]]]," ++
    "[\"Form\",\"web\",[[\"first-name\",\"text\",\"\",\"req\"]]]]]"

def fairSchema : Schema :=
  ⟨[⟨"Stand", "fair", [⟨"title", .text, "", "req"⟩]⟩,
    ⟨"Form", "web", [⟨"first-name", .text, "", "req"⟩]⟩]⟩

def standPlan : Plan :=
  ⟨"Stand", "fair", [.check ⟨"title", .text, ⟨"req", none⟩⟩ .notEmpty]⟩

def formPlan : Plan :=
  ⟨"Form", "web", [.check ⟨"first-name", .text, ⟨"req", none⟩⟩ .notEmpty]⟩

/-- The directory of the output has a file of an earlier run. -/
def fairStore : FileStore :=
  ⟨[(["records.json"], fairManifest), (["gen", "fair_tagval.rs"], "// old\n")], [["gen"]]⟩

theorem loadManifest_fairStore : loadManifest fairStore "records.json" = .ok fairSchema := by
  have format : DataFormat.ofPath? "records.json" = some .json := by decide +kernel
  have present : fairStore.read "records.json" = .ok fairManifest := rfl
  have schema : Schema.ofManifest? .json fairManifest = some fairSchema := by decide +kernel
  exact loadManifest_of_read format present schema

theorem compileAll_fairSchema :
    (Compiler.ofSchema fairSchema).compileAll = .ok ⟨[standPlan, formPlan]⟩ := by
  have names : (Compiler.ofSchema fairSchema).names = ["Stand", "Form"] := by rfl
  apply Compiler.compileAll_of_plans
  rw [names]
  exact .cons (Compiler.compile_ok_iff.2 ⟨_, rfl, rfl⟩)
    (.cons (Compiler.compile_ok_iff.2 ⟨_, rfl, rfl⟩) .nil)

/-- The plan of the stand has a text, and the run for both records writes nothing. -/
theorem generation_fails_before_writing_of_fairStore :
    loadManifest fairStore "records.json" = .ok fairSchema ∧
    (Compiler.ofSchema fairSchema).compileAll = .ok ⟨[standPlan, formPlan]⟩ ∧
    (∃ text, standPlan.implementation .default = .ok text) ∧
    formPlan.Writes "first-name" ∧ ¬IsSpelled "first-name" ∧
    ∃ error, runTask fairStore .default (.generate "records.json" "gen" none false) =
      .failed (.compile error) "" fairStore := by
  have written : ∃ text, standPlan.implementation .default = .ok text := by
    refine Plan.implementation_ok_iff.2 fun name inside => ?_
    rcases List.mem_pair.1 inside with rfl | rfl <;> exact ⟨_, rfl⟩
  have writes : formPlan.Writes "first-name" :=
    Plan.mem_names_iff.1 (List.mem_cons_of_mem _ List.mem_cons_self)
  have unspelled : ¬IsSpelled "first-name" := by
    rintro ⟨spelling, spelled⟩
    cases spelled
  obtain ⟨-, refuses, -⟩ :=
    generation_fails_before_writing .default "gen" none false loadManifest_fairStore
  obtain ⟨blamed, -, other, -, -, failed⟩ := refuses _ compileAll_fairSchema formPlan
    (List.mem_cons_of_mem _ List.mem_cons_self) _ writes unspelled
  exact ⟨loadManifest_fairStore, compileAll_fairSchema, written, writes, unspelled, _, failed⟩

end Command

end FieldRules
