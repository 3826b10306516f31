import FieldRules.Plan.Basic
import FieldRules.Plan.CompileError
import FieldRules.Registry.Builtin

/-!
This file compiles records to plans. The compiler walks the fields of a record, and it walks a
nested record before the rule that follows. Each record of a schema is compiled once.
-/

namespace FieldRules

/-- Nested records are compiled in their place, or they are left to their own validators. -/
inductive Nesting where
  | resolve
  | defer
  deriving Repr, DecidableEq

structure Compiler where
  schema : Schema
  registry : Registry
  nesting : Nesting

/-- The results of the records that are finished; a record without checks has no plan. -/
abbrev Finished := List (String × Option Plan)

/-- Compiling a named record needs the finished ones and adds to them. -/
abbrev Descent := String → Finished → Except CompileError (Option Plan × Finished)

/-- This function visits the items in order and joins their steps; the first error stops it. -/
def gatherSteps {Item : Type}
    (visit : Item → Finished → Except CompileError (List Step × Finished)) :
    List Item → Finished → Except CompileError (List Step × Finished)
  | [], finished => .ok ([], finished)
  | item :: items, finished =>
      match visit item finished with
      | .error error => .error error
      | .ok (steps, finished) =>
          match gatherSteps visit items finished with
          | .error error => .error error
          | .ok (others, finished) => .ok (steps ++ others, finished)

namespace Compiler

/-- A nested record without checks gives no step. -/
def descendSteps (compiler : Compiler) (descent : Descent) (record : Record) (field : Field)
    (site : Site) (finished : Finished) : Except CompileError (List Step × Finished) :=
  match compiler.nesting with
  | .defer => .ok ([.deferred site field.typeName], finished)
  | .resolve =>
      match compiler.schema.record? field.typeName with
      | none => .error (.rule record.name ⟨field.name, .unknownRecord field.typeName⟩)
      | some _ =>
          match descent field.typeName finished with
          | .error error => .error error
          | .ok (none, finished) => .ok ([], finished)
          | .ok (some plan, finished) =>
              .ok ([.nested site plan.record plan.namespaceName plan.steps], finished)

def ruleSteps (compiler : Compiler) (descent : Descent) (record : Record) (field : Field)
    (rule : Rule) (finished : Finished) : Except CompileError (List Step × Finished) :=
  let site : Site := ⟨field.name, field.kind, rule⟩
  match compiler.registry.resolve record field rule with
  | .error error => .error (.rule record.name error)
  | .ok (.check check) => .ok ([.check site check], finished)
  | .ok .descend => compiler.descendSteps descent record field site finished

/-- The whole tag of a field is read before the first of its rules is resolved. -/
def fieldSteps (compiler : Compiler) (descent : Descent) (record : Record) (field : Field)
    (finished : Finished) : Except CompileError (List Step × Finished) :=
  match readTag field.name field.tag with
  | .error error => .error (.malformedTag record.name error)
  | .ok rules => gatherSteps (compiler.ruleSteps descent record field) rules finished

def build (compiler : Compiler) (descent : Descent) (record : Record) (finished : Finished) :
    Except CompileError (Option Plan × Finished) :=
  match gatherSteps (compiler.fieldSteps descent record) record.fields finished with
  | .error error => .error error
  | .ok (steps, finished) =>
      let plan := if steps.isEmpty then none else some ⟨record.name, record.namespaceName, steps⟩
      .ok (plan, (record.name, plan) :: finished)

/-- The loop that a name closes, when it comes back to a path of records. -/
def loop (path : List String) (name : String) : List String :=
  path.dropWhile (· != name) ++ [name]

def unvisited (schema : Schema) (path : List String) : List Record :=
  schema.records.filter fun record => !path.contains record.name

theorem length_filter_lt {Item : Type} {keeps narrower : Item → Bool} {items : List Item}
    {item : Item} (fewer : ∀ other, narrower other = true → keeps other = true)
    (member : item ∈ items) (kept : keeps item = true) (dropped : narrower item = false) :
    (items.filter narrower).length < (items.filter keeps).length := by
  have sublist : (items.filter narrower).length = ((items.filter keeps).filter narrower).length := by
    rw [List.filter_filter]
    congr 1
    apply List.filter_congr
    intro other _
    cases holds : narrower other
    · rfl
    · simp [fewer other holds]
  rw [sublist]
  apply Nat.lt_of_le_of_ne (List.length_filter_le _ _)
  intro same
  have all := List.length_filter_eq_length_iff.1 same item (List.mem_filter.2 ⟨member, kept⟩)
  simp [dropped] at all

theorem unvisited_lt {schema : Schema} {path : List String} {name : String} {record : Record}
    (found : schema.record? name = some record) (fresh : path.contains name = false) :
    (unvisited schema (path ++ [name])).length < (unvisited schema path).length := by
  have member : record ∈ schema.records := List.mem_of_find?_eq_some found
  have named : record.name = name := by simpa using List.find?_some found
  refine length_filter_lt ?_ member ?_ ?_
  · intro other
    simp only [Bool.not_eq_true', List.contains_eq_mem, List.mem_append, decide_eq_false_iff_not]
    exact fun absent present => absent (Or.inl present)
  · simpa [named] using fresh
  · simp [named]

/-- The path holds the records that are being compiled, from the outermost to the innermost. -/
def visit (compiler : Compiler) (path : List String) (name : String) (finished : Finished) :
    Except CompileError (Option Plan × Finished) :=
  match _found : compiler.schema.record? name with
  | none => .error (.unknownRecord name)
  | some record =>
      match finished.lookup name with
      | some plan => .ok (plan, finished)
      | none =>
          if _fresh : path.contains name = false then
            compiler.build (fun target finished => compiler.visit (path ++ [name]) target finished)
              record finished
          else .error (.cycle (loop path name))
termination_by (unvisited compiler.schema path).length
decreasing_by exact unvisited_lt _found _fresh

/-- This function compiles the named record of the schema. -/
def compile (compiler : Compiler) (name : String) : Except CompileError (Option Plan) :=
  (compiler.visit [] name []).map Prod.fst

/-- The record itself need not be in the schema, and the records nested in it are. -/
def compileRecord (compiler : Compiler) (record : Record) : Except CompileError (Option Plan) :=
  (compiler.build (compiler.visit [record.name]) record []).map Prod.fst

def compileNames (compiler : Compiler) : List String → Finished → Except CompileError (List Plan)
  | [], _ => .ok []
  | name :: names, finished =>
      match compiler.visit [] name finished with
      | .error error => .error error
      | .ok (plan, finished) =>
          match compiler.compileNames names finished with
          | .error error => .error error
          | .ok plans => .ok (plan.toList ++ plans)

/-- This function compiles all records of the schema, in their order. -/
def compileAll (compiler : Compiler) : Except CompileError PlanSet :=
  (compiler.compileNames (firstSeen (compiler.schema.records.map Record.name)) []).map PlanSet.mk

/-- The compiler with the built-in rules, which resolves nested records. -/
def ofSchema (schema : Schema) : Compiler :=
  ⟨schema, .builtin, .resolve⟩

/-- The compiler with the built-in rules, which leaves nested records to their own validators. -/
def deferring (schema : Schema) : Compiler :=
  ⟨schema, .builtin, .defer⟩

end Compiler

end FieldRules
