import FieldRules.Proofs.Plan.Whole
import FieldRules.Proofs.Registry.Removal
import Mathlib.Data.List.Chain

/-!
This file shows that the reported cycles are the loops of the nested records. A loop is read from
the tags of the schema alone, and the path of the compiler is a chain of such nestings.
-/

namespace FieldRules

open Relation

/-- A nested field of the record names the target and its tag asks for a descent. -/
def Record.Nests (record : Record) (target : String) : Prop :=
  ∃ field ∈ record.fields, field.kind = .nested ∧ field.typeName = target ∧
    ∃ rules, readTag field.name field.tag = .ok rules ∧ ∃ rule ∈ rules, rule.Descends

/-- The record of the first name nests the second name. -/
def Schema.Nests (schema : Schema) (name target : String) : Prop :=
  ∃ record, schema.record? name = some record ∧ record.Nests target

/-- A loop comes back to its first name, passes no name twice and follows the nesting. -/
def IsLoop (nests : String → String → Prop) (first : String) (names : List String) : Prop :=
  ∃ between, names = first :: between ++ [first] ∧ (first :: between).Nodup ∧ names.IsChain nests

/-- A rule of the table that descends nests the record to which its field leads. -/
theorem nests_of_row {record : Record} {field : Field} (member : field ∈ record.fields)
    {rules : List Rule} (read : readTag field.name field.tag = .ok rules) {rule : Rule}
    (inside : rule ∈ rules) (row : RuleTable record field rule .descend) :
    record.Nests field.typeName := by
  cases row with
  | descend kind spelling known =>
      exact ⟨field, member, kind, rfl, rules, read, _, inside, known⟩

/-- A chain leads from its first name to its last one. -/
theorem reflTransGen_of_isChain {nests : String → String → Prop} {walk : List String}
    {first last : String} (chained : (walk ++ [last]).IsChain nests)
    (starts : (walk ++ [last]).head? = some first) : ReflTransGen nests first last := by
  cases walk with
  | nil =>
      cases starts
      exact .refl
  | cons second walk =>
      cases starts
      exact List.relationReflTransGen_of_exists_isChain_cons _ chained
        (show List.getLast _ _ = last by simp)

theorem IsLoop.transGen {nests : String → String → Prop} {first : String} {names : List String}
    (circle : IsLoop nests first names) : TransGen nests first first := by
  obtain ⟨between, rfl, -, chained⟩ := circle
  rw [List.cons_append, List.isChain_cons] at chained
  obtain ⟨second, starts⟩ : ∃ second, (between ++ [first]).head? = some second :=
    Option.isSome_iff_exists.1 (by simp)
  exact .head' (chained.1 second starts) (reflTransGen_of_isChain chained.2 starts)

/-- The loop of a path starts at the first place where the name occurs. -/
theorem Compiler.loop_append_cons {before after : List String} {name : String}
    (absent : name ∉ before) : loop (before ++ name :: after) name = name :: after ++ [name] := by
  rw [loop, List.dropWhile_append_of_pos]
  · simp
  · intro other earlier
    rw [bne_iff_ne]
    rintro rfl
    exact absent earlier

/-- The part of a path from the name on is a loop through it. -/
theorem loop_isLoop {nests : String → String → Prop} {path : List String} {name : String}
    (distinct : path.Nodup) (chained : (path ++ [name]).IsChain nests) (member : name ∈ path) :
    IsLoop nests name (Compiler.loop path name) := by
  obtain ⟨before, after, rfl, absent⟩ := List.eq_append_cons_of_mem member
  rw [Compiler.loop_append_cons absent]
  refine ⟨after, rfl, (List.nodup_append.1 distinct).2.1, ?_⟩
  rw [List.append_assoc] at chained
  exact chained.right_of_append

namespace Compiler

/-- The names of a cycle close at a name of the path or the walk. -/
theorem exists_walk_of_direct {compiler : Compiler} {path : List String} {name : String}
    {names : List String} (stopped : compiler.direct path name = .error (.cycle names))
    (distinct : path.Nodup) :
    ∃ walk last, names = loop (path ++ walk) last ∧ last ∈ path ++ walk ∧ (path ++ walk).Nodup ∧
      (compiler.schema.record? last).isSome = true ∧
      (walk ++ [last]).IsChain compiler.Descends ∧ (walk ++ [last]).head? = some name := by
  induction path, name using direct.induct compiler with
  | case1 path name missing => simp [direct_unknown missing] at stopped
  | case2 path name record found fresh inductionHypothesis =>
      rw [direct_known found, if_pos fresh] at stopped
      rcases directBuild_error stopped with ⟨_, other⟩ | ⟨_, other⟩ | ⟨target, leads, descended⟩
      · cases other
      · cases other
      · have absent : name ∉ path := by simpa using fresh
        have longer : (path ++ [name]).Nodup := by
          simpa [List.nodup_append, distinct] using
            fun other member => ne_of_mem_of_not_mem member absent
        obtain ⟨walk, last, closed, member, further, known, chained, starts⟩ :=
          inductionHypothesis target descended longer
        rw [List.append_assoc, List.singleton_append] at closed member further
        refine ⟨name :: walk, last, closed, member, further, known, ?_, rfl⟩
        rw [List.cons_append, List.isChain_cons, starts]
        refine ⟨fun second same => ?_, chained⟩
        cases same
        exact ⟨record, found, leads⟩
  | case3 path name record found visited =>
      rw [direct_known found, if_neg visited] at stopped
      cases stopped
      have member : name ∈ path := by simpa using visited
      exact ⟨[], name, by simp, by simpa using member, by simpa using distinct, by simp [found],
        .singleton name, rfl⟩

/-- A record that leads to a name by rules of the table nests the name. -/
theorem nests_of_leads_of_table {compiler : Compiler} (table : compiler.registry.KeepsToTable)
    {record : Record} {target : String} (leads : compiler.Leads record target) :
    record.Nests target := by
  obtain ⟨-, field, fieldMember, rfl, rules, read, rule, ruleMember, resolved⟩ := leads
  exact nests_of_row fieldMember read ruleMember (table _ _ _ _ resolved)

/-- A record that leads to a name under the built-in rules nests the name. -/
theorem nests_of_leads {schema : Schema} {record : Record} {target : String}
    (leads : (ofSchema schema).Leads record target) : record.Nests target :=
  nests_of_leads_of_table Registry.keepsToTable_builtin leads

/-- A descent of the built-in rules is a nesting of the schema. -/
theorem nests_of_descends {schema : Schema} {name target : String}
    (descends : (ofSchema schema).Descends name target) : schema.Nests name target := by
  obtain ⟨record, found, leads⟩ := descends
  exact ⟨record, found, nests_of_leads leads⟩

/-- A record that has a result leads to each name that it nests. -/
theorem leads_of_nests {schema : Schema} {descent : DirectDescent} {record : Record}
    {plan : Option Plan} (built : (ofSchema schema).directBuild descent record = .ok plan)
    {target : String} (nests : record.Nests target) : (ofSchema schema).Leads record target := by
  obtain ⟨field, fieldMember, kind, typed, rules, read, rule, ruleMember, known⟩ := nests
  obtain ⟨others, again, each⟩ := directBuild_rules built fieldMember
  cases again.symm.trans read
  obtain ⟨part, ofRule⟩ := each rule ruleMember
  obtain ⟨resolution, resolved⟩ := directRule_resolves ofRule
  rw [(ruleTable_of_resolve resolved).eq_descend_iff.2 known] at resolved
  exact ⟨rfl, field, fieldMember, typed, rules, read, rule, ruleMember, resolved⟩

/-- In a record that has a result each nesting is a descent of the built-in rules. -/
theorem descends_of_nests {schema : Schema} {name target : String} {plan : Option Plan}
    (compiled : (ofSchema schema).compile name = .ok plan) (nests : schema.Nests name target) :
    (ofSchema schema).Descends name target := by
  obtain ⟨record, found, inside⟩ := nests
  obtain ⟨other, same, built⟩ := compile_ok_iff.1 compiled
  cases same.symm.trans found
  exact ⟨record, found, leads_of_nests built inside⟩

/-- The records nested in a record that has a result have results. -/
theorem compile_of_descends {compiler : Compiler} {name target : String} {plan : Option Plan}
    (compiled : compiler.compile name = .ok plan) (descends : compiler.Descends name target) :
    ∃ nested, compiler.compile target = .ok nested := by
  obtain ⟨record, found, built⟩ := compile_ok_iff.1 compiled
  obtain ⟨other, same, leads⟩ := descends
  cases same.symm.trans found
  exact directBuild_visits built leads

/-- No endless nesting starts from a record that has a result. -/
theorem nests_acc {schema : Schema} {name : String} {plan : Option Plan}
    (compiled : (ofSchema schema).compile name = .ok plan) :
    Acc (fun target name => schema.Nests name target) name := by
  have descending := direct_acc (compile_eq_direct _ _ ▸ compiled)
  induction descending generalizing plan with
  | intro name _ inductionHypothesis =>
      refine ⟨_, fun target nests => ?_⟩
      have descends := descends_of_nests compiled nests
      obtain ⟨nested, further⟩ := compile_of_descends compiled descends
      exact inductionHypothesis target descends further

/-- A compilation of a record reports a cycle only if its nesting reaches this loop. -/
theorem compile_cycle {schema : Schema} {name : String} {names : List String}
    (stopped : (ofSchema schema).compile name = .error (.cycle names)) :
    ∃ first, IsLoop schema.Nests first names ∧ ReflTransGen schema.Nests name first := by
  rw [compile_eq_direct] at stopped
  obtain ⟨walk, last, rfl, member, distinct, -, descent, starts⟩ :=
    exists_walk_of_direct stopped .nil
  have chained : (walk ++ [last]).IsChain schema.Nests := descent.imp fun _ _ => nests_of_descends
  exact ⟨last, loop_isLoop distinct chained member, reflTransGen_of_isChain chained starts⟩

/-- The reported cycles are the loops of nested records that are reached. -/
theorem cycles_are_loops (schema : Schema) :
    (∀ name names, (ofSchema schema).compile name = .error (.cycle names) →
      ∃ first, IsLoop schema.Nests first names ∧ ReflTransGen schema.Nests name first) ∧
    (∀ names, (ofSchema schema).compileAll = .error (.cycle names) →
      ∃ first, IsLoop schema.Nests first names ∧
        ∃ record ∈ schema.records, record.name = first) ∧
    (∀ name first names, ReflTransGen schema.Nests name first →
      IsLoop schema.Nests first names → ∀ plan, (ofSchema schema).compile name ≠ .ok plan) ∧
    (∀ name plan, (ofSchema schema).compile name = .ok plan →
      ∀ reached, ReflTransGen schema.Nests name reached →
        ¬TransGen schema.Nests reached reached) ∧
    ∀ name, (∀ reached, ReflTransGen schema.Nests name reached →
        ¬TransGen schema.Nests reached reached) →
      ∀ names, (ofSchema schema).compile name ≠ .error (.cycle names) := by
  refine ⟨fun name names => compile_cycle, ?_, ?_, ?_, ?_⟩
  · intro names stopped
    obtain ⟨before, record, after, split, -, failed⟩ := firstError_of_compileAll stopped
    obtain ⟨first, circle, -⟩ := compile_cycle failed
    obtain ⟨_, ⟨other, found, -⟩, -⟩ := TransGen.head'_iff.1 circle.transGen
    exact ⟨first, circle, other, List.mem_of_find?_eq_some found, Schema.record?_name found⟩
  · intro name first names reaches circle plan compiled
    exact not_transGen_of_acc (nests_acc compiled) reaches circle.transGen
  · intro name plan compiled reached reaches
    exact not_transGen_of_acc (nests_acc compiled) reaches
  · intro name loopless names stopped
    obtain ⟨first, circle, reaches⟩ := compile_cycle stopped
    exact loopless first reaches circle.transGen

end Compiler

end FieldRules
