import FieldRules.Proofs.Plan.Loop

/-!
This file says which cycles are reported for a record that need not be in the schema. The path of
the compiler holds names alone, so a record outside the schema is taken for its namesake inside.
-/

namespace FieldRules

open Relation

/-- The nesting of the record reaches a loop of the schema, which passes the given names. -/
def Record.ReachesLoop (schema : Schema) (record : Record) (names : List String) : Prop :=
  ∃ target, record.Nests target ∧
    ∃ first, ReflTransGen schema.Nests target first ∧ IsLoop schema.Nests first names

/-- The nesting of the record reaches another record with its name. -/
def Record.ReachesNamesake (schema : Schema) (record : Record) (names : List String) : Prop :=
  ∃ namesake, schema.record? record.name = some namesake ∧ namesake ≠ record ∧
    ∃ target, record.Nests target ∧
      ∃ walk, names = record.name :: walk ++ [record.name] ∧ (record.name :: walk).Nodup ∧
        (walk ++ [record.name]).IsChain schema.Nests ∧
        (walk ++ [record.name]).head? = some target

namespace Compiler

/-- A cycle is a loop that is reached, or it leads to a namesake. -/
theorem reaches_of_compileRecord {schema : Schema} {record : Record} {names : List String}
    (stopped : (ofSchema schema).compileRecord record = .error (.cycle names)) :
    record.ReachesLoop schema names ∨ record.ReachesNamesake schema names := by
  rw [compileRecord_eq_direct] at stopped
  rcases directBuild_error stopped with ⟨_, other⟩ | ⟨_, other⟩ | ⟨target, leads, descended⟩
  · cases other
  · cases other
  · have nests := nests_of_leads leads
    obtain ⟨walk, last, closed, member, distinct, known, descent, starts⟩ :=
      exists_walk_of_direct descended (by simp)
    have chained : (walk ++ [last]).IsChain schema.Nests :=
      descent.imp fun _ _ => nests_of_descends
    have reaches := reflTransGen_of_isChain chained starts
    rw [List.singleton_append] at closed member distinct
    by_cases same : last = record.name
    · -- The walk comes back to the name that the record gave to the path.
      subst same
      have whole : names = record.name :: walk ++ [record.name] := by
        rw [closed, loop, List.dropWhile_cons_of_neg (by simp)]
      obtain ⟨namesake, found⟩ := Option.isSome_iff_exists.1 known
      by_cases itself : namesake = record
      · subst itself
        refine .inl ⟨target, nests, _, reaches, walk, whole, distinct, ?_⟩
        rw [whole, List.cons_append, List.isChain_cons, starts]
        refine ⟨fun second same => ?_, chained⟩
        cases same
        exact ⟨_, found, nests⟩
      · exact .inr ⟨namesake, found, itself, target, nests, walk, whole, distinct, chained, starts⟩
    · have inside : last ∈ walk := (List.mem_cons.1 member).resolve_left same
      have skipped : loop (record.name :: walk) last = loop walk last := by
        rw [loop, List.dropWhile_cons_of_pos (by simpa using Ne.symm same), loop]
      refine .inl ⟨target, nests, last, reaches, ?_⟩
      rw [closed, skipped]
      exact loop_isLoop distinct.of_cons chained inside

/-- A record that reaches a loop of the schema has no result. -/
theorem compileRecord_ne_ok {schema : Schema} {record : Record} {names : List String}
    (reaches : record.ReachesLoop schema names) (plan : Option Plan) :
    (ofSchema schema).compileRecord record ≠ .ok plan := by
  intro compiled
  have built := directBuild_of_compileRecord compiled
  obtain ⟨target, nests, first, path, circle⟩ := reaches
  obtain ⟨nested, descended⟩ := directBuild_visits built (leads_of_nests built nests)
  exact not_transGen_of_acc (nests_acc descended) path circle.transGen

/-- A cycle of a lone record is a loop or a way to its namesake. -/
theorem compileRecord_cycle (schema : Schema) (record : Record) (names : List String) :
    ((ofSchema schema).compileRecord record = .error (.cycle names) →
      record.ReachesLoop schema names ∨ record.ReachesNamesake schema names) ∧
    (record.ReachesLoop schema names →
      ∀ plan, (ofSchema schema).compileRecord record ≠ .ok plan) :=
  ⟨reaches_of_compileRecord, compileRecord_ne_ok⟩

end Compiler

/-- A line names the order that it belongs to. -/
def orderLine : Record :=
  ⟨"Line", "", [⟨"code", .text, "", "req"⟩, ⟨"order", .nested, "Order", "obj"⟩]⟩

/-- The orders of this schema have no lines. -/
def lineSchema : Schema :=
  ⟨[orderLine, ⟨"Order", "", [⟨"note", .text, "", ""⟩]⟩]⟩

/-- An order outside the schema has a line. -/
def linedOrder : Record :=
  ⟨"Order", "", [⟨"line", .nested, "Line", "obj"⟩]⟩

theorem nests_lineSchema {name target : String} (nests : lineSchema.Nests name target) :
    name = "Line" ∧ target = "Order" := by
  obtain ⟨record, found, field, fieldMember, kind, typed, -⟩ := nests
  have named := Schema.record?_name found
  rcases List.mem_pair.1 (List.mem_of_find?_eq_some found) with rfl | rfl
  · rcases List.mem_pair.1 fieldMember with rfl | rfl
    · cases kind
    · exact ⟨named.symm, typed.symm⟩
  · cases List.mem_singleton.1 fieldMember
    cases kind

/-- No record of the schema is nested in itself. -/
theorem loopless_lineSchema (name : String) : ¬TransGen lineSchema.Nests name name := by
  intro circle
  obtain ⟨_, first, -⟩ := TransGen.head'_iff.1 circle
  obtain ⟨_, -, last⟩ := TransGen.tail'_iff.1 circle
  have same := (nests_lineSchema first).1.symm.trans (nests_lineSchema last).2
  revert same
  decide

/-- The line of the order descends into the name of the order. -/
theorem compileRecord_linedOrder :
    (Compiler.ofSchema lineSchema).compileRecord linedOrder =
      .error (.cycle ["Order", "Line", "Order"]) := by
  have closes : (Compiler.ofSchema lineSchema).direct ["Order", "Line"] "Order" =
      .error (.cycle ["Order", "Line", "Order"]) := by
    rw [Compiler.direct_known (by rfl), if_neg (by decide)]
    rfl
  have line : (Compiler.ofSchema lineSchema).direct ["Order"] "Line" =
      .error (.cycle ["Order", "Line", "Order"]) := by
    rw [Compiler.direct_known (show _ = some orderLine from rfl), if_pos (by decide)]
    have stopped : (Compiler.ofSchema lineSchema).directBuild
        (fun _ => .error (.cycle ["Order", "Line", "Order"])) orderLine =
          .error (.cycle ["Order", "Line", "Order"]) := rfl
    rw [← stopped]
    apply Compiler.directBuild_congr
    intro target leads
    have nests : lineSchema.Nests "Line" target := ⟨_, rfl, Compiler.nests_of_leads leads⟩
    rw [(nests_lineSchema nests).2]
    exact closes
  rw [Compiler.compileRecord_eq_direct]
  have stopped : (Compiler.ofSchema lineSchema).directBuild
      (fun _ => .error (.cycle ["Order", "Line", "Order"])) linedOrder =
        .error (.cycle ["Order", "Line", "Order"]) := rfl
  rw [← stopped]
  apply Compiler.directBuild_congr
  intro target leads
  obtain ⟨field, fieldMember, -, typed, -⟩ := Compiler.nests_of_leads leads
  cases List.mem_singleton.1 fieldMember
  rw [← typed]
  exact line

/-- The names of this cycle start at one order and end at the other. -/
theorem compileRecord_cycle_of_linedOrder :
    (Compiler.ofSchema lineSchema).compileRecord linedOrder =
      .error (.cycle ["Order", "Line", "Order"]) ∧
    linedOrder.ReachesNamesake lineSchema ["Order", "Line", "Order"] := by
  refine ⟨compileRecord_linedOrder, ?_⟩
  rcases (Compiler.compileRecord_cycle _ _ _).1 compileRecord_linedOrder with
    ⟨_, -, first, -, circle⟩ | meets
  · exact absurd circle.transGen (loopless_lineSchema first)
  · exact meets

/-- No record that the order reaches is nested in itself. -/
theorem compileRecord_cycle_without_loop :
    (Compiler.ofSchema lineSchema).compileRecord linedOrder =
      .error (.cycle ["Order", "Line", "Order"]) ∧
    ¬∃ target, linedOrder.Nests target ∧
      ∃ first, ReflTransGen lineSchema.Nests target first ∧
        TransGen lineSchema.Nests first first := by
  refine ⟨compileRecord_linedOrder, ?_⟩
  rintro ⟨_, -, first, -, circle⟩
  exact loopless_lineSchema first circle

end FieldRules
