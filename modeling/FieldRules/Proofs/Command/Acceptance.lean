import FieldRules.Command.Basic
import FieldRules.Proofs.Generator.Grouping
import FieldRules.Proofs.Tag.Grammar

/-!
This file shows that a schema passes the check if and only if its validators can be generated. The
check leaves out schemas without tags, and it writes all other plans in a fixed setting.
-/

namespace FieldRules

/-! ### Schemas without tags -/

/-- Items without steps have no steps together. -/
theorem joinSteps_eq_nil {Item : Type} {visit : Item → Except CompileError (List Step)}
    {items : List Item} (empty : ∀ item ∈ items, visit item = .ok []) :
    joinSteps visit items = .ok [] := by
  induction items with
  | nil => rfl
  | cons item items inductionHypothesis =>
      have rest := inductionHypothesis fun item member => empty item (List.mem_cons_of_mem _ member)
      rw [joinSteps, empty item List.mem_cons_self, rest]
      rfl

namespace Compiler

/-- A record without tags has no plan, whatever its fields nest. -/
theorem directBuild_of_untagged {compiler : Compiler} {descent : DirectDescent} {record : Record}
    (untagged : record.hasTags = false) : compiler.directBuild descent record = .ok none := by
  have empty : ∀ field ∈ record.fields, compiler.directField descent record field = .ok [] := by
    intro field member
    have blank : field.isTagged = false := by
      simpa using List.any_eq_false.1 untagged field member
    rw [directField, readTag_of_untagged blank]
    rfl
  exact directBuild_ok_iff.2 ⟨[], joinSteps_eq_nil empty, rfl⟩

theorem compileAll_of_untagged {compiler : Compiler} (untagged : compiler.schema.hasTags = false) :
    compiler.compileAll = .ok ⟨[]⟩ := by
  have planless : ∀ record ∈ compiler.schema.records, compiler.compile record.name = .ok none := by
    intro record member
    have known : (compiler.schema.record? record.name).isSome = true :=
      List.find?_isSome.2 ⟨record, member, beq_self_eq_true _⟩
    obtain ⟨first, found⟩ := Option.isSome_iff_exists.1 known
    have blank : first.hasTags = false := by
      simpa using List.any_eq_false.1 untagged first (List.mem_of_find?_eq_some found)
    exact compile_ok_iff.2 ⟨first, found, directBuild_of_untagged blank⟩
  have unplanned : compiler.names.filterMap compiler.planned? = [] := by
    rw [List.filterMap_eq_nil_iff]
    intro name listed
    obtain ⟨record, member, rfl⟩ := mem_names_iff.1 listed
    exact planned?_of_compile (planless record member)
  rw [compileAll_of_allCompile fun record member => ⟨none, planless record member⟩, unplanned]

end Compiler

/-- The generator gives no file for a schema without tags. -/
theorem generate_of_untagged {schema : Schema} (config : GeneratorConfig)
    (untagged : schema.hasTags = false) : generate schema config = .ok [] := by
  have compiled : (Compiler.ofSchema schema).compileAll = .ok ⟨[]⟩ :=
    Compiler.compileAll_of_untagged untagged
  exact generate_ok_iff.2 ⟨_, compiled, .nil⟩

/-! ### The check -/

namespace Command

/-- A schema without tags passes, and one whose plans have texts. -/
theorem checkSchema_ok_iff {schema : Schema} :
    (∃ output, checkSchema schema = .ok output) ↔
      schema.hasTags = false ∨ ∃ set, (Compiler.ofSchema schema).compileAll = .ok set ∧
        ∀ plan ∈ set.plans, ∃ text, plan.implementation .default = .ok text := by
  rw [checkSchema]
  cases tagged : schema.hasTags with
  | false => simp
  | true =>
      cases (Compiler.ofSchema schema).compileAll with
      | error error => simp
      | ok set =>
          have written : (∃ texts, Plan.implementations .default set.plans = .ok texts) ↔
              ∀ plan ∈ set.plans, ∃ text, plan.implementation .default = .ok text := by
            simp only [Plan.implementations_ok_iff, exists_forall₂_iff]
          simp only [if_true, Bool.true_eq_false, false_or, Except.ok.injEq, exists_eq_left',
            ← written]
          cases Plan.implementations .default set.plans <;> simp

/-- The check accepts a schema if and only if the generator accepts it. -/
theorem check_accepts_what_generate_accepts (schema : Schema) (config : GeneratorConfig) :
    ((∃ output, checkSchema schema = .ok output) ↔
      schema.hasTags = false ∨ ∃ set, (Compiler.ofSchema schema).compileAll = .ok set ∧
        ∀ plan ∈ set.plans, ∃ text, plan.implementation .default = .ok text) ∧
    ((∃ output, checkSchema schema = .ok output) ↔ ∃ files, generate schema config = .ok files) ∧
    (schema.hasTags = false → generate schema config = .ok []) := by
  refine ⟨checkSchema_ok_iff, ?_, generate_of_untagged config⟩
  simp only [checkSchema_ok_iff, exists_generate_iff, Plan.implementation_ok_iff]
  constructor
  · rintro (untagged | written)
    · exact ⟨_, Compiler.compileAll_of_untagged untagged, by simp⟩
    · exact written
  · exact .inr

end Command

end FieldRules
