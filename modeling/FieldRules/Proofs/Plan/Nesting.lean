import FieldRules.Proofs.Plan.Direct
import Mathlib.Logic.Relation

/-!
This file relates records to the records into which their rules descend. A record that has a plan
lies on no loop of this relation, so its plan does not depend on the path that leads to it.
-/

namespace FieldRules.Compiler

open Relation

/-- A rule that has steps resolves. -/
theorem directRule_resolves {compiler : Compiler} {descent : DirectDescent} {record : Record}
    {field : Field} {rule : Rule} {part : List Step}
    (ofRule : compiler.directRule descent record field rule = .ok part) :
    ∃ resolution, compiler.registry.resolve record field rule = .ok resolution := by
  rw [directRule] at ofRule
  split at ofRule
  · cases ofRule
  · next check resolved => exact ⟨.check check, resolved⟩
  · next resolved => exact ⟨.descend, resolved⟩

/-- Some rule of the record descends into the record of the given name. -/
def Leads (compiler : Compiler) (record : Record) (target : String) : Prop :=
  compiler.nesting = .resolve ∧ ∃ field ∈ record.fields, field.typeName = target ∧
    ∃ rules, readTag field.name field.tag = .ok rules ∧
      ∃ rule ∈ rules, compiler.registry.resolve record field rule = .ok .descend

/-- The record of the first name descends into the record of the second name. -/
def Descends (compiler : Compiler) (name target : String) : Prop :=
  ∃ record, compiler.schema.record? name = some record ∧ compiler.Leads record target

/-- The same compiler with another schema. -/
def withSchema (compiler : Compiler) (schema : Schema) : Compiler :=
  { compiler with schema }

/-- Only the records into which a record descends and their plans matter to its own plan. -/
theorem directBuild_withSchema {compiler : Compiler} {schema : Schema} {descent other : DirectDescent}
    {record : Record}
    (same : ∀ target, compiler.Leads record target →
      compiler.schema.record? target = schema.record? target ∧ descent target = other target) :
    compiler.directBuild descent record = (compiler.withSchema schema).directBuild other record := by
  have fields : ∀ field ∈ record.fields,
      compiler.directField descent record field =
        (compiler.withSchema schema).directField other record field := by
    intro field fieldMember
    rw [directField, directField]
    split
    · rfl
    · next rules read =>
        apply joinSteps_congr
        intro rule ruleMember
        rw [directRule, directRule]
        have registry : (compiler.withSchema schema).registry = compiler.registry := rfl
        rw [registry]
        split
        · rfl
        · rfl
        · next resolved =>
            simp only [directNested, withSchema]
            split
            · rfl
            · next nesting =>
                obtain ⟨known, answered⟩ := same field.typeName
                  ⟨nesting, field, fieldMember, rfl, rules, read, rule, ruleMember, resolved⟩
                rw [known, answered]
  rw [directBuild, directBuild, joinSteps_congr fields]

/-- Only the plans of the records into which a record descends matter to its own plan. -/
theorem directBuild_congr {compiler : Compiler} {descent other : DirectDescent} {record : Record}
    (same : ∀ target, compiler.Leads record target → descent target = other target) :
    compiler.directBuild descent record = compiler.directBuild other record :=
  directBuild_withSchema fun target leads => ⟨rfl, same target leads⟩

/-- All rules of a record that has a result resolve and have steps. -/
theorem directBuild_rules {compiler : Compiler} {descent : DirectDescent} {record : Record}
    {plan : Option Plan} (built : compiler.directBuild descent record = .ok plan)
    {field : Field} (fieldMember : field ∈ record.fields) :
    ∃ rules, readTag field.name field.tag = .ok rules ∧ ∀ rule ∈ rules,
      ∃ part, compiler.directRule descent record field rule = .ok part := by
  obtain ⟨steps, joined, -⟩ := directBuild_ok_iff.1 built
  obtain ⟨part, ofField⟩ := joinSteps_visits joined field fieldMember
  rw [directField] at ofField
  split at ofField
  · cases ofField
  · next rules read => exact ⟨rules, read, joinSteps_visits ofField⟩

/-- A record with a result asks for the plans of its nested records. -/
theorem directBuild_visits {compiler : Compiler} {descent : DirectDescent} {record : Record}
    {plan : Option Plan} (built : compiler.directBuild descent record = .ok plan)
    {target : String} (leads : compiler.Leads record target) :
    ∃ nested, descent target = .ok nested := by
  obtain ⟨nesting, field, fieldMember, rfl, rules, read, rule, ruleMember, resolved⟩ := leads
  obtain ⟨others, same, each⟩ := directBuild_rules built fieldMember
  cases read.symm.trans same
  obtain ⟨part, ofRule⟩ := each rule ruleMember
  simp only [directRule, resolved, directNested, nesting] at ofRule
  split at ofRule
  · cases ofRule
  · split at ofRule
    · cases ofRule
    · next nested descended => exact ⟨nested, descended⟩

/-- The error of a record is its own or that of a nested record. -/
theorem directBuild_error {compiler : Compiler} {descent : DirectDescent} {record : Record}
    {error : CompileError} (stopped : compiler.directBuild descent record = .error error) :
    (∃ fault, error = .malformedTag record.name fault) ∨
      (∃ fault, error = .rule record.name fault) ∨
      ∃ target, compiler.Leads record target ∧ descent target = .error error := by
  rw [directBuild] at stopped
  split at stopped
  · next ofField =>
      cases stopped
      obtain ⟨field, fieldMember, ofField⟩ := joinSteps_error ofField
      rw [directField] at ofField
      split at ofField
      · next fault _ =>
          cases ofField
          exact .inl ⟨fault, rfl⟩
      · next rules read =>
          obtain ⟨rule, ruleMember, ofRule⟩ := joinSteps_error ofField
          rw [directRule] at ofRule
          split at ofRule
          · next fault _ =>
              cases ofRule
              exact .inr (.inl ⟨fault, rfl⟩)
          · cases ofRule
          · next resolved =>
              rw [directNested] at ofRule
              split at ofRule
              · cases ofRule
              · next nesting =>
                  split at ofRule
                  · cases ofRule
                    exact .inr (.inl ⟨_, rfl⟩)
                  · split at ofRule
                    · next descended =>
                        cases ofRule
                        exact .inr (.inr ⟨field.typeName, ⟨nesting, field, fieldMember, rfl, rules,
                          read, rule, ruleMember, resolved⟩, descended⟩)
                    · cases ofRule
  · cases stopped

/-- A descent with more results gives no other plan. -/
theorem directBuild_mono {compiler : Compiler} {descent other : DirectDescent} {record : Record}
    {plan : Option Plan} (built : compiler.directBuild descent record = .ok plan)
    (more : ∀ target, compiler.Leads record target → ∀ nested, descent target = .ok nested →
      other target = .ok nested) :
    compiler.directBuild other record = .ok plan := by
  rw [← built]
  symm
  apply directBuild_congr
  intro target leads
  obtain ⟨nested, descended⟩ := directBuild_visits built leads
  rw [descended, more target leads nested descended]

theorem direct_known {compiler : Compiler} {name : String} {record : Record}
    (found : compiler.schema.record? name = some record) (path : List String) :
    compiler.direct path name =
      if path.contains name = false then
        compiler.directBuild (compiler.direct (path ++ [name])) record
      else .error (.cycle (loop path name)) := by
  rw [direct]
  split
  · next missing => simp [missing] at found
  · next other known =>
      cases known.symm.trans found
      rfl

theorem direct_unknown {compiler : Compiler} {name : String}
    (missing : compiler.schema.record? name = none) (path : List String) :
    compiler.direct path name = .error (.unknownRecord name) := by
  rw [direct]
  split
  · rfl
  · next known => simp [missing] at known

theorem direct_ok {compiler : Compiler} {path : List String} {name : String} {plan : Option Plan}
    (compiled : compiler.direct path name = .ok plan) :
    ∃ record, compiler.schema.record? name = some record ∧ path.contains name = false ∧
      compiler.directBuild (compiler.direct (path ++ [name])) record = .ok plan := by
  cases found : compiler.schema.record? name with
  | none => simp [direct_unknown found] at compiled
  | some record =>
      rw [direct_known found] at compiled
      split at compiled
      · next fresh => exact ⟨record, rfl, fresh, compiled⟩
      · cases compiled

/-- No endless descent starts from a record that has a result. -/
theorem direct_acc {compiler : Compiler} {path : List String} {name : String} {plan : Option Plan}
    (compiled : compiler.direct path name = .ok plan) :
    Acc (fun target name => compiler.Descends name target) name := by
  induction path, name using direct.induct compiler generalizing plan with
  | case1 path name missing => simp [direct_unknown missing] at compiled
  | case2 path name record found fresh inductionHypothesis =>
      rw [direct_known found, if_pos fresh] at compiled
      refine ⟨_, fun target descends => ?_⟩
      obtain ⟨other, known, leads⟩ := descends
      cases known.symm.trans found
      obtain ⟨nested, descended⟩ := directBuild_visits compiled leads
      exact inductionHypothesis target descended
  | case3 path name record found visited =>
      rw [direct_known found, if_neg visited] at compiled
      cases compiled

/-- A relation without an endless descent from an item has no loop that the item reaches. -/
theorem not_transGen_of_acc {Item : Type} {relation : Item → Item → Prop} {item reached : Item}
    (accessible : Acc (fun target source => relation source target) item)
    (reaches : ReflTransGen relation item reached) : ¬TransGen relation reached reached := by
  have descending := accessible.transGen
  induction descending generalizing reached with
  | intro item _ inductionHypothesis =>
      intro circle
      rcases reflTransGen_iff_eq_or_transGen.1 reaches with rfl | descent
      · exact inductionHypothesis reached (transGen_swap.2 circle) accessible .refl circle
      · have below := accessible.inv_of_transGen (transGen_swap.2 descent)
        exact inductionHypothesis reached (transGen_swap.2 descent) below .refl circle

/-- A record that has a result on a path does not reach the path again. -/
theorem direct_apart {compiler : Compiler} {path : List String} {name : String}
    {plan : Option Plan} (compiled : compiler.direct path name = .ok plan) :
    ∀ ancestor ∈ path, ¬ReflTransGen compiler.Descends name ancestor := by
  induction path, name using direct.induct compiler generalizing plan with
  | case1 path name missing => simp [direct_unknown missing] at compiled
  | case2 path name record found fresh inductionHypothesis =>
      rw [direct_known found, if_pos fresh] at compiled
      intro ancestor member reaches
      rcases reaches.cases_head with rfl | ⟨target, descends, reaches⟩
      · simp [member] at fresh
      · obtain ⟨other, known, leads⟩ := descends
        cases known.symm.trans found
        obtain ⟨nested, descended⟩ := directBuild_visits compiled leads
        exact inductionHypothesis target descended ancestor (List.mem_append_left _ member) reaches
  | case3 path name record found visited =>
      rw [direct_known found, if_neg visited] at compiled
      cases compiled

/-- A record has the same result on each path that it does not reach. -/
theorem direct_path {compiler : Compiler} {path : List String} {name : String} {plan : Option Plan}
    (compiled : compiler.direct path name = .ok plan) {other : List String}
    (apart : ∀ ancestor ∈ other, ¬ReflTransGen compiler.Descends name ancestor) :
    compiler.direct other name = .ok plan := by
  induction path, name using direct.induct compiler generalizing plan other with
  | case1 path name missing => simp [direct_unknown missing] at compiled
  | case2 path name record found fresh inductionHypothesis =>
      have noLoop := not_transGen_of_acc (direct_acc compiled) .refl
      have otherFresh : other.contains name = false := by
        simpa using fun member => apart name member .refl
      rw [direct_known found, if_pos fresh] at compiled
      rw [direct_known found, if_pos otherFresh]
      refine directBuild_mono compiled fun target leads nested descended => ?_
      have descends : compiler.Descends name target := ⟨record, found, leads⟩
      refine inductionHypothesis target descended fun ancestor member reaches => ?_
      rcases List.mem_append.1 member with member | member
      · exact apart ancestor member (.head descends reaches)
      · rw [List.mem_singleton.1 member] at reaches
        exact noLoop (.head' descends reaches)
  | case3 path name record found visited =>
      rw [direct_known found, if_neg visited] at compiled
      cases compiled

/-- The records with plans are their own descent: no path is left in the equation. -/
theorem direct_nil_ok_iff {compiler : Compiler} {name : String} {plan : Option Plan} :
    compiler.direct [] name = .ok plan ↔
      ∃ record, compiler.schema.record? name = some record ∧
        compiler.directBuild (compiler.direct []) record = .ok plan := by
  constructor
  · intro compiled
    obtain ⟨record, found, _, built⟩ := direct_ok compiled
    refine ⟨record, found, directBuild_mono built fun target _ nested descended => ?_⟩
    exact direct_path descended (by simp)
  · rintro ⟨record, found, built⟩
    rw [direct_known found, if_pos (List.contains_nil)]
    refine directBuild_mono built fun target leads nested descended => ?_
    have descends : compiler.Descends name target := ⟨record, found, leads⟩
    refine direct_path descended fun ancestor member reaches => ?_
    rw [List.nil_append, List.mem_singleton] at member
    rw [member] at reaches
    exact not_transGen_of_acc (direct_acc descended) .refl (.tail' reaches descends)

end FieldRules.Compiler
