import FieldRules.Plan.Compiler

/-!
This file compiles records without a table of finished records. A direct compilation walks a nested
record again each time a rule leads to it, so its result depends on the path alone.
-/

namespace FieldRules

/-- This function visits the items in order and joins their steps; the first error stops it. -/
def joinSteps {Item : Type} (visit : Item → Except CompileError (List Step)) :
    List Item → Except CompileError (List Step)
  | [] => .ok []
  | item :: items =>
      match visit item with
      | .error error => .error error
      | .ok steps =>
          match joinSteps visit items with
          | .error error => .error error
          | .ok others => .ok (steps ++ others)

/-- A nested record without a plan gives no step. -/
def nestedSteps (site : Site) : Option Plan → List Step
  | none => []
  | some plan => [.nested site plan.record plan.namespaceName plan.steps]

/-- A record without steps has no plan. -/
def Record.plan? (record : Record) (steps : List Step) : Option Plan :=
  if steps.isEmpty then none else some ⟨record.name, record.namespaceName, steps⟩

/-- The site of a rule is its place in the plan. -/
def Field.site (field : Field) (rule : Rule) : Site :=
  ⟨field.name, field.kind, rule⟩

/-- A direct descent gives the plan of a nested record by its name. -/
abbrev DirectDescent := String → Except CompileError (Option Plan)

namespace Compiler

def directNested (compiler : Compiler) (descent : DirectDescent) (record : Record) (field : Field)
    (rule : Rule) : Except CompileError (List Step) :=
  match compiler.nesting with
  | .defer => .ok [.deferred (field.site rule) field.typeName]
  | .resolve =>
      match compiler.schema.record? field.typeName with
      | none => .error (.rule record.name ⟨field.name, .unknownRecord field.typeName⟩)
      | some _ =>
          match descent field.typeName with
          | .error error => .error error
          | .ok plan => .ok (nestedSteps (field.site rule) plan)

def directRule (compiler : Compiler) (descent : DirectDescent) (record : Record) (field : Field)
    (rule : Rule) : Except CompileError (List Step) :=
  match compiler.registry.resolve record field rule with
  | .error error => .error (.rule record.name error)
  | .ok (.check check) => .ok [.check (field.site rule) check]
  | .ok .descend => compiler.directNested descent record field rule

def directField (compiler : Compiler) (descent : DirectDescent) (record : Record) (field : Field) :
    Except CompileError (List Step) :=
  match readTag field.name field.tag with
  | .error error => .error (.malformedTag record.name error)
  | .ok rules => joinSteps (compiler.directRule descent record field) rules

def directBuild (compiler : Compiler) (descent : DirectDescent) (record : Record) :
    Except CompileError (Option Plan) :=
  match joinSteps (compiler.directField descent record) record.fields with
  | .error error => .error error
  | .ok steps => .ok (record.plan? steps)

/-- The path holds the records that are being compiled, from the outermost to the innermost. -/
def direct (compiler : Compiler) (path : List String) (name : String) :
    Except CompileError (Option Plan) :=
  match _found : compiler.schema.record? name with
  | none => .error (.unknownRecord name)
  | some record =>
      if _fresh : path.contains name = false then
        compiler.directBuild (fun target => compiler.direct (path ++ [name]) target) record
      else .error (.cycle (loop path name))
termination_by (unvisited compiler.schema path).length
decreasing_by exact unvisited_lt _found _fresh

end Compiler

/-- Whatever holds of no items and is kept by each item holds of all steps. -/
theorem joinSteps_induction {Item : Type} {visit : Item → Except CompileError (List Step)}
    {motive : List Item → List Step → Prop} (empty : motive [] [])
    (further : ∀ item items part others, visit item = .ok part →
      motive items others → motive (item :: items) (part ++ others))
    {items : List Item} {steps : List Step} (joined : joinSteps visit items = .ok steps) :
    motive items steps := by
  induction items generalizing steps with
  | nil =>
      cases joined
      exact empty
  | cons item items inductionHypothesis =>
      rw [joinSteps] at joined
      split at joined
      · cases joined
      · next part visited =>
          split at joined
          · cases joined
          · next others rest =>
              cases joined
              exact further item items part others visited (inductionHypothesis rest)

/-- If the steps of all items are joined, each item has steps. -/
theorem joinSteps_visits {Item : Type} {visit : Item → Except CompileError (List Step)}
    {items : List Item} {steps : List Step} (joined : joinSteps visit items = .ok steps) :
    ∀ item ∈ items, ∃ part, visit item = .ok part := by
  refine joinSteps_induction (motive := fun items _ => ∀ item ∈ items, ∃ part, visit item = .ok part)
    (by simp) ?_ joined
  intro item items part others visited earlier other member
  rcases List.mem_cons.1 member with rfl | member
  · exact ⟨part, visited⟩
  · exact earlier other member

theorem joinSteps_congr {Item : Type} {visit other : Item → Except CompileError (List Step)}
    {items : List Item} (same : ∀ item ∈ items, visit item = other item) :
    joinSteps visit items = joinSteps other items := by
  induction items with
  | nil => rfl
  | cons item items inductionHypothesis =>
      rw [joinSteps, joinSteps, same item List.mem_cons_self,
        inductionHypothesis fun item member => same item (List.mem_cons_of_mem _ member)]

/-- The error comes from some item. -/
theorem joinSteps_error {Item : Type} {visit : Item → Except CompileError (List Step)}
    {items : List Item} {error : CompileError} (stopped : joinSteps visit items = .error error) :
    ∃ item ∈ items, visit item = .error error := by
  induction items with
  | nil => cases stopped
  | cons item items inductionHypothesis =>
      rw [joinSteps] at stopped
      split at stopped
      · next visited =>
          cases stopped
          exact ⟨item, List.mem_cons_self, visited⟩
      · split at stopped
        · next rest =>
            cases stopped
            obtain ⟨item, member, visited⟩ := inductionHypothesis rest
            exact ⟨item, List.mem_cons_of_mem _ member, visited⟩
        · cases stopped

theorem Record.plan?_eq_some_iff {record : Record} {steps : List Step} {plan : Plan} :
    record.plan? steps = some plan ↔
      steps ≠ [] ∧ plan = ⟨record.name, record.namespaceName, steps⟩ := by
  rw [Record.plan?]
  cases steps <;> simp [eq_comm]

/-- A record has a result if the steps of its fields can be joined. -/
theorem Compiler.directBuild_ok_iff {compiler : Compiler} {descent : DirectDescent}
    {record : Record} {plan : Option Plan} :
    compiler.directBuild descent record = .ok plan ↔
      ∃ steps, joinSteps (compiler.directField descent record) record.fields = .ok steps ∧
        record.plan? steps = plan := by
  rw [directBuild]
  cases joinSteps (compiler.directField descent record) record.fields <;> simp

end FieldRules
