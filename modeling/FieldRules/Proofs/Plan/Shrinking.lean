import FieldRules.Proofs.Plan.Steps
import FieldRules.Proofs.Plan.Whole
import FieldRules.Proofs.Registry.Removal

/-!
This file compares compilations whose registries differ by some pairs of a keyword and a kind. With
fewer pairs a record compiles to the same plan, or it stops at the first rule whose pair is lost.
-/

namespace FieldRules

/-- The error of a rule whose keyword has no meaning on its field. -/
def Occurrence.unsupported (place : Occurrence) : CompileError :=
  .rule place.record.name
    ⟨place.field.name, .unsupportedKind place.rule.keyword place.field.kind⟩

/-- The registry has the pair of the rule, and the smaller one does not. -/
def Registry.loses (registry smaller : Registry) (place : Occurrence) : Bool :=
  registry.covers place.rule place.field.kind && !smaller.covers place.rule place.field.kind

/-! ### Walks -/

/-- A rule that descends comes before the rules of the record into which it descends. -/
def Occurrence.walk (nesting : Nesting) (below : String → List Occurrence) (place : Occurrence) :
    List Occurrence :=
  place :: if nesting = .resolve ∧ place.rule.Descends then below place.field.typeName else []

/-- The rules of a record in the order of the compiler. -/
def Record.walk (nesting : Nesting) (below : String → List Occurrence) (record : Record) :
    List Occurrence :=
  record.fields.flatMap fun field => field.rules.flatMap fun rule =>
    Occurrence.walk nesting below ⟨record, field, rule⟩

/-- The rules of the named record and of all records below it. -/
def Schema.walk (schema : Schema) (nesting : Nesting) (path : List String) (name : String) :
    List Occurrence :=
  match _found : schema.record? name with
  | none => []
  | some record =>
      if _fresh : path.contains name = false then
        record.walk nesting fun target => schema.walk nesting (path ++ [name]) target
      else []
termination_by (Compiler.unvisited schema path).length
decreasing_by exact Compiler.unvisited_lt _found _fresh

theorem Schema.walk_known {schema : Schema} {name : String} {record : Record}
    (found : schema.record? name = some record) (nesting : Nesting) (path : List String) :
    schema.walk nesting path name =
      if path.contains name = false then
        record.walk nesting (schema.walk nesting (path ++ [name]))
      else [] := by
  rw [walk]
  split
  · next missing => simp [missing] at found
  · next other known =>
      cases known.symm.trans found
      rfl

/-! ### Shrinking results -/

/-- A result stands unless some place interrupts it with an unsupported rule. -/
def interrupted {Result : Type} (place : Option Occurrence) (result : Result) :
    Except CompileError Result :=
  match place with
  | none => .ok result
  | some place => .error place.unsupported

/-- A result of the larger compilation stands unless a place loses its rule. -/
def Shrinks {Result : Type} (lost : Occurrence → Bool) (places : List Occurrence)
    (larger smaller : Except CompileError Result) : Prop :=
  (∀ result, smaller = .ok result → larger = .ok result) ∧
    ∀ result, larger = .ok result → smaller = interrupted (places.find? lost) result

section

variable {lost : Occurrence → Bool}

theorem shrinks_error {Result : Type} (places : List Occurrence) (error other : CompileError) :
    Shrinks lost places (Except.error error : Except CompileError Result) (.error other) := by
  constructor
  · intro result compiled
    cases compiled
  · intro result compiled
    cases compiled

theorem shrinks_ok {Result : Type} (result : Result) : Shrinks lost [] (.ok result) (.ok result) :=
  ⟨fun _ compiled => compiled, fun _ compiled => compiled⟩

/-- A place that keeps its rule does not matter. -/
theorem Shrinks.cons {Result : Type} {larger smaller : Except CompileError Result}
    {places : List Occurrence} (shrinks : Shrinks lost places larger smaller) {place : Occurrence}
    (kept : lost place = false) : Shrinks lost (place :: places) larger smaller := by
  refine ⟨shrinks.1, fun result compiled => ?_⟩
  rw [List.find?_cons, kept]
  exact shrinks.2 result compiled

/-- A place that loses its rule stops the smaller compilation. -/
theorem shrinks_of_lost {Result : Type} {larger : Except CompileError Result} {place : Occurrence}
    (loses : lost place = true) (places : List Occurrence) :
    Shrinks lost (place :: places) larger (.error place.unsupported) := by
  constructor
  · intro result compiled
    cases compiled
  · intro result _
    rw [List.find?_cons, loses]
    rfl

theorem Shrinks.map {Result Other : Type} {larger smaller : Except CompileError Result}
    {places : List Occurrence} (shrinks : Shrinks lost places larger smaller)
    (change : Result → Other) : Shrinks lost places (larger.map change) (smaller.map change) := by
  obtain ⟨given, stands⟩ := shrinks
  constructor
  · intro result compiled
    cases smaller with
    | error error => cases compiled
    | ok inner =>
        rw [given inner rfl]
        exact compiled
  · intro result compiled
    cases larger with
    | error error => cases compiled
    | ok inner =>
        cases compiled
        rw [stands inner rfl]
        cases places.find? lost <;> rfl

/-- The joined steps shrink if those of each item do. -/
theorem joinSteps_shrinks {Item : Type} {visit other : Item → Except CompileError (List Step)}
    {places : Item → List Occurrence}
    (each : ∀ item, Shrinks lost (places item) (visit item) (other item)) (items : List Item) :
    Shrinks lost (items.flatMap places) (joinSteps visit items) (joinSteps other items) := by
  constructor
  · intro steps joined
    rw [← joined]
    refine joinSteps_congr fun item member => ?_
    obtain ⟨part, visited⟩ := joinSteps_visits joined item member
    rw [visited, (each item).1 part visited]
  · intro steps joined
    refine joinSteps_induction (motive := fun items steps =>
      joinSteps other items = interrupted ((items.flatMap places).find? lost) steps) rfl ?_ joined
    intro item items part others visited rest
    rw [joinSteps, (each item).2 part visited, List.flatMap_cons, List.find?_append, rest]
    cases (places item).find? lost with
    | some place => rfl
    | none => cases (items.flatMap places).find? lost <;> rfl

end

namespace Compiler

/-- The same compiler without the given pairs. -/
def without (compiler : Compiler) (pairs : List (Keyword × Kind)) : Compiler :=
  { compiler with registry := compiler.registry.without pairs }

section

variable {compiler : Compiler} {pairs : List (Keyword × Kind)} {descent other : DirectDescent}
  {below : String → List Occurrence} {record : Record} {field : Field} {rule : Rule}

/-- The places at which the compiler loses its rule. -/
def lost (compiler : Compiler) (pairs : List (Keyword × Kind)) : Occurrence → Bool :=
  compiler.registry.loses (compiler.registry.without pairs)

theorem directNested_shrinks (descends : rule.Descends)
    (each : ∀ target, Shrinks (compiler.lost pairs) (below target) (descent target) (other target)) :
    Shrinks (compiler.lost pairs)
      (if compiler.nesting = .resolve ∧ rule.Descends then below field.typeName else [])
      (compiler.directNested descent record field rule)
      ((compiler.without pairs).directNested other record field rule) := by
  simp only [directNested, without]
  cases compiler.nesting with
  | defer => exact shrinks_ok _
  | resolve =>
      rw [if_pos ⟨rfl, descends⟩]
      cases compiler.schema.record? field.typeName with
      | none => exact shrinks_error _ _ _
      | some nested =>
          have plan := (each field.typeName).map (nestedSteps (field.site rule))
          dsimp only
          generalize descent field.typeName = larger at plan ⊢
          generalize other field.typeName = smaller at plan ⊢
          cases larger <;> cases smaller <;> exact plan

/-- A rule whose pair is lost stops the smaller compiler before the rule descends. -/
theorem directRule_shrinks (table : compiler.registry.KeepsToTable)
    (each : ∀ target, Shrinks (compiler.lost pairs) (below target) (descent target) (other target)) :
    Shrinks (compiler.lost pairs) (Occurrence.walk compiler.nesting below ⟨record, field, rule⟩)
      (compiler.directRule descent record field rule)
      ((compiler.without pairs).directRule other record field rule) := by
  have registry : (compiler.without pairs).registry = compiler.registry.without pairs := rfl
  rw [directRule, directRule, registry, Occurrence.walk]
  cases resolved : compiler.registry.resolve record field rule with
  | error error =>
      -- Both compilers stop here, perhaps with different errors.
      cases resolvedToo : (compiler.registry.without pairs).resolve record field rule with
      | error other => exact shrinks_error _ _ _
      | ok resolution => cases resolved.symm.trans (Registry.resolve_of_without resolvedToo)
  | ok resolution =>
      have loses : compiler.lost pairs ⟨record, field, rule⟩ =
          !(compiler.registry.without pairs).covers rule field.kind := by
        rw [lost, Registry.loses, Registry.covers_of_resolve resolved, Bool.true_and]
      cases left : (compiler.registry.without pairs).covers rule field.kind with
      | false =>
          rw [Registry.resolve_without_of_not_covers resolved left]
          rw [left] at loses
          exact shrinks_of_lost loses _
      | true =>
          rw [Registry.resolve_without_of_covers resolved left]
          rw [left] at loses
          have row := table _ _ _ _ resolved
          refine Shrinks.cons ?_ loses
          cases resolution with
          | check test =>
              rw [if_neg fun both => row.not_descends both.2]
              exact shrinks_ok _
          | descend => exact directNested_shrinks (row.eq_descend_iff.1 rfl) each

theorem directField_shrinks (table : compiler.registry.KeepsToTable)
    (each : ∀ target, Shrinks (compiler.lost pairs) (below target) (descent target) (other target)) :
    Shrinks (compiler.lost pairs)
      (field.rules.flatMap fun rule => Occurrence.walk compiler.nesting below ⟨record, field, rule⟩)
      (compiler.directField descent record field)
      ((compiler.without pairs).directField other record field) := by
  rw [directField, directField, Field.rules]
  cases readTag field.name field.tag with
  | error error => exact shrinks_error _ _ _
  | ok rules => exact joinSteps_shrinks (fun rule => directRule_shrinks table each) rules

/-- A record shrinks if the records into which it descends do. -/
theorem directBuild_shrinks (table : compiler.registry.KeepsToTable)
    (each : ∀ target, Shrinks (compiler.lost pairs) (below target) (descent target) (other target)) :
    Shrinks (compiler.lost pairs) (record.walk compiler.nesting below)
      (compiler.directBuild descent record)
      ((compiler.without pairs).directBuild other record) := by
  have fields : Shrinks (compiler.lost pairs) (record.walk compiler.nesting below)
      (joinSteps (compiler.directField descent record) record.fields)
      (joinSteps ((compiler.without pairs).directField other record) record.fields) :=
    joinSteps_shrinks (fun field => directField_shrinks table each) record.fields
  have plan := fields.map record.plan?
  rw [directBuild, directBuild]
  generalize joinSteps (compiler.directField descent record) record.fields = larger at plan ⊢
  generalize joinSteps ((compiler.without pairs).directField other record) record.fields = smaller
    at plan ⊢
  cases larger <;> cases smaller <;> exact plan

/-- The path does not matter to the comparison, since both compilers have the same schema. -/
theorem direct_shrinks (table : compiler.registry.KeepsToTable) (path : List String)
    (name : String) :
    Shrinks (compiler.lost pairs) (compiler.schema.walk compiler.nesting path name)
      (compiler.direct path name) ((compiler.without pairs).direct path name) := by
  have schema : (compiler.without pairs).schema = compiler.schema := rfl
  induction path, name using direct.induct compiler with
  | case1 path name missing =>
      rw [direct_unknown missing, direct_unknown (schema ▸ missing)]
      exact shrinks_error _ _ _
  | case2 path name record found fresh inductionHypothesis =>
      rw [direct_known found, direct_known (schema ▸ found), if_pos fresh, if_pos fresh,
        Schema.walk_known found, if_pos fresh]
      exact directBuild_shrinks table inductionHypothesis
  | case3 path name record found visited =>
      rw [direct_known found, direct_known (schema ▸ found), if_neg visited, if_neg visited]
      exact shrinks_error _ _ _

/-! ### Names, records and schemas -/

theorem compile_shrinks (table : compiler.registry.KeepsToTable) (name : String) :
    Shrinks (compiler.lost pairs) (compiler.schema.walk compiler.nesting [] name)
      (compiler.compile name) ((compiler.without pairs).compile name) := by
  rw [compile_eq_direct, compile_eq_direct]
  exact direct_shrinks table [] name

theorem compileRecord_shrinks (table : compiler.registry.KeepsToTable) (record : Record) :
    Shrinks (compiler.lost pairs)
      (record.walk compiler.nesting (compiler.schema.walk compiler.nesting [record.name]))
      (compiler.compileRecord record) ((compiler.without pairs).compileRecord record) := by
  rw [compileRecord_eq_direct, compileRecord_eq_direct]
  exact directBuild_shrinks table fun target => direct_shrinks table [record.name] target

/-- A schema is interrupted where the first of its records is that is interrupted. -/
theorem compileAll_shrinks (table : compiler.registry.KeepsToTable) :
    Shrinks (compiler.lost pairs)
      (compiler.names.flatMap (compiler.schema.walk compiler.nesting []))
      compiler.compileAll (compiler.without pairs).compileAll := by
  have each (name : String) : Shrinks (compiler.lost pairs)
      (compiler.schema.walk compiler.nesting [] name) (compiler.compile name)
      ((compiler.without pairs).compile name) := compile_shrinks table name
  have listed : (compiler.without pairs).names = compiler.names := rfl
  constructor
  · intro set compiled
    have passing := allCompile_of_compileAll compiled
    rw [← compiled]
    refine compileAll_congr listed.symm fun name member => ?_
    obtain ⟨record, known, rfl⟩ := mem_names_iff.1 member
    obtain ⟨plan, alone⟩ := passing record known
    rw [alone, (each record.name).1 plan alone]
  · intro set compiled
    have alone : ∀ name ∈ compiler.names, ∃ plan, compiler.compile name = .ok plan := by
      intro name member
      obtain ⟨record, known, rfl⟩ := mem_names_iff.1 member
      exact allCompile_of_compileAll compiled record known
    rw [List.find?_flatMap]
    cases found : compiler.names.findSome? fun name =>
        (compiler.schema.walk compiler.nesting [] name).find? (compiler.lost pairs) with
    | none =>
        rw [List.findSome?_eq_none_iff] at found
        refine (compileAll_congr listed fun name member => ?_).trans compiled
        obtain ⟨plan, answered⟩ := alone name member
        rw [(each name).2 plan answered, found name member, answered]
        rfl
    | some place =>
        -- The names before the place keep their results, and its own name is the first one to fail.
        obtain ⟨before, name, after, split, first, earlier⟩ := List.findSome?_eq_some_iff.1 found
        have failed : (compiler.without pairs).compile name = .error place.unsupported := by
          obtain ⟨plan, answered⟩ := alone name (by simp [split])
          rw [(each name).2 plan answered, first]
          rfl
        refine compileAll_of_split split (fun other member => ?_) failed
        obtain ⟨plan, answered⟩ := alone other (by simp [split, member])
        refine ⟨plan, ?_⟩
        rw [(each other).2 plan answered, earlier other member]
        rfl

end

/-- With fewer rules a plan stays as it was, or the first lost rule is reported. -/
theorem compilation_shrinks_with_registry (schema : Schema) (nesting : Nesting)
    (removed further : List (Keyword × Kind)) :
    let larger := lacking schema nesting removed
    let smaller := lacking schema nesting (removed ++ further)
    let lost := larger.registry.loses smaller.registry
    (∀ name, Shrinks lost (schema.walk nesting [] name) (larger.compile name)
      (smaller.compile name)) ∧
    (∀ record : Record, Shrinks lost (record.walk nesting (schema.walk nesting [record.name]))
      (larger.compileRecord record) (smaller.compileRecord record)) ∧
    Shrinks lost (larger.names.flatMap (schema.walk nesting [])) larger.compileAll
      smaller.compileAll := by
  have table : (lacking schema nesting removed).registry.KeepsToTable :=
    Registry.keepsToTable_builtin_without removed
  have fewer : lacking schema nesting (removed ++ further) =
      (lacking schema nesting removed).without further := by
    rw [lacking, Registry.without_append]
    rfl
  rw [fewer]
  exact ⟨compile_shrinks table, compileRecord_shrinks table, compileAll_shrinks table⟩

end Compiler

end FieldRules
