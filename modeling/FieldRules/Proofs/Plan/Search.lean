import FieldRules.Proofs.Plan.Whole

/-!
This file takes a compilation apart into single steps. A search keeps its own stack of the records
that it is walking, so nothing about it ends by construction. Each search ends, and it ends with the
result of the compilation.
-/

namespace FieldRules

open Relation

/-- The fields and the rules to come in the walk of a record, and its steps. -/
structure Frame where
  record : Record
  fields : List Field
  rules : List (Field × Rule)
  steps : List Step

/-- The frame goes on after a rule that gave the steps. -/
def Frame.add (frame : Frame) (steps : List Step) : Frame :=
  { frame with steps := frame.steps ++ steps }

/-- A caller waits for the plan of the record that its rule descends into. -/
structure Caller where
  frame : Frame
  site : Site

/-- A task asks for a record, enters it, walks its fields, answers or fails. -/
inductive Task where
  | rest
  | build (record : Record)
  | enter (record : Record)
  | walk (frame : Frame)
  | answer (plan : Option Plan)
  | refuse (error : CompileError)

/-- The state of a search, with the innermost caller first. -/
structure Search where
  task : Task
  callers : List Caller
  finished : Finished
  roots : List String
  plans : List Plan

/-- The records that wait for a nested one, from the outermost to the innermost. -/
def Search.waiting (search : Search) : List String :=
  (search.callers.map fun caller => caller.frame.record.name).reverse

namespace Compiler

/-- The next rule of the frame is a check or asks for a nested record. -/
def applyRule (compiler : Compiler) (search : Search) (frame : Frame) (field : Field)
    (rule : Rule) : Search :=
  match compiler.registry.resolve frame.record field rule with
  | .error error => { search with task := .refuse (.rule frame.record.name error) }
  | .ok (.check check) =>
      { search with task := .walk (frame.add [.check (field.site rule) check]) }
  | .ok .descend =>
      match compiler.nesting with
      | .defer =>
          { search with task := .walk (frame.add [.deferred (field.site rule) field.typeName]) }
      | .resolve =>
          match compiler.schema.record? field.typeName with
          | none =>
              { search with
                task := .refuse
                  (.rule frame.record.name ⟨field.name, .unknownRecord field.typeName⟩) }
          | some target =>
              { search with
                task := .build target, callers := ⟨frame, field.site rule⟩ :: search.callers }

/-- The rules of a field come before the next field. -/
def walkFrame (compiler : Compiler) (search : Search) (frame : Frame) : Search :=
  match frame.rules, frame.fields with
  | (field, rule) :: rules, _ => compiler.applyRule search { frame with rules } field rule
  | [], field :: fields =>
      match readTag field.name field.tag with
      | .error error => { search with task := .refuse (.malformedTag frame.record.name error) }
      | .ok rules =>
          { search with
            task := .walk { frame with fields, rules := rules.map fun rule => (field, rule) } }
  | [], [] =>
      let plan := frame.record.plan? frame.steps
      { search with
        task := .answer plan, finished := (frame.record.name, plan) :: search.finished }

/-- This function takes one step, if the search has not ended. -/
def next? (compiler : Compiler) (search : Search) : Option Search :=
  match search.task with
  | .rest =>
      match search.roots with
      | [] => none
      | name :: roots =>
          match compiler.schema.record? name with
          | none => some { search with task := .refuse (.unknownRecord name), roots }
          | some record => some { search with task := .build record, roots }
  | .build record =>
      match search.finished.lookup record.name with
      | some plan => some { search with task := .answer plan }
      | none =>
          if search.waiting.contains record.name = false then
            some { search with task := .enter record }
          else
            some { search with task := .refuse (.cycle (loop search.waiting record.name)) }
  | .enter record => some { search with task := .walk ⟨record, record.fields, [], []⟩ }
  | .walk frame => some (compiler.walkFrame search frame)
  | .answer plan =>
      match search.callers with
      | [] => some { search with task := .rest, plans := search.plans ++ plan.toList }
      | caller :: callers =>
          some { search with
            task := .walk (caller.frame.add (nestedSteps caller.site plan)), callers }
  | .refuse _ =>
      match search.callers with
      | [] => none
      | _ :: callers => some { search with callers }

end Compiler

/-- A search ends with the plans of all roots or with an error. -/
def Search.outcome? (search : Search) : Option (Except CompileError (List Plan)) :=
  match search.task, search.callers, search.roots with
  | .rest, _, [] => some (.ok search.plans)
  | .refuse error, [], _ => some (.error error)
  | _, _, _ => none

/-- A compilation starts from a name, from a record or from the whole schema. -/
inductive Root where
  | named (name : String)
  | given (record : Record)
  | all

namespace Root

def start (compiler : Compiler) : Root → Search
  | .named name => ⟨.rest, [], [], [name], []⟩
  | .given record => ⟨.build record, [], [], [], []⟩
  | .all => ⟨.rest, [], [], firstSeen (compiler.schema.records.map Record.name), []⟩

/-- The plans that the compilation gives. -/
def compile (compiler : Compiler) : Root → Except CompileError (List Plan)
  | .named name => (compiler.compile name).map Option.toList
  | .given record => (compiler.compileRecord record).map Option.toList
  | .all => compiler.compileAll.map PlanSet.plans

end Root

namespace Compiler

/-- The second search comes after the first one, in any number of steps. -/
abbrev Continues (compiler : Compiler) : Search → Search → Prop :=
  ReflTransGen fun search later => compiler.next? search = some later

/-- A search that starts a part of a compilation comes to its result or its error. -/
inductive Performs {Result : Type} (compiler : Compiler) (base start : Search)
    (result : Result → Finished → Search) : Except CompileError (Result × Finished) → Prop
  | result (value : Result) (finished : Finished)
      (reached : compiler.Continues start (result value finished)) :
      Performs compiler base start result (.ok (value, finished))
  | error (error : CompileError) (finished : Finished)
      (reached : compiler.Continues start { base with task := .refuse error, finished }) :
      Performs compiler base start result (.error error)

section

variable {compiler : Compiler} {base : Search}

theorem Performs.of_continues {Result : Type} {start later : Search}
    {result : Result → Finished → Search} {part : Except CompileError (Result × Finished)}
    (first : compiler.Continues start later) (rest : compiler.Performs base later result part) :
    compiler.Performs base start result part := by
  cases rest with
  | result value finished reached => exact .result value finished (first.trans reached)
  | error error finished reached => exact .error error finished (first.trans reached)

/-- Items that are performed one after the other are performed together. -/
theorem gatherSteps_performs {Item : Type}
    {visit : Item → Finished → Except CompileError (List Step × Finished)}
    (place : List Item → List Step → Finished → Search)
    (each : ∀ item items steps finished,
      compiler.Performs base (place (item :: items) steps finished)
        (fun part finished => place items (steps ++ part) finished) (visit item finished))
    (items : List Item) (steps : List Step) (finished : Finished) :
    compiler.Performs base (place items steps finished)
      (fun part finished => place [] (steps ++ part) finished)
      (gatherSteps visit items finished) := by
  induction items generalizing steps finished with
  | nil => exact .result [] finished (by rw [List.append_nil])
  | cons item items inductionHypothesis =>
      have first := each item items steps finished
      rw [gatherSteps]
      generalize visit item finished = run at first ⊢
      cases first with
      | error error last reached => exact .error error last reached
      | result part between reached =>
          have rest := inductionHypothesis (steps ++ part) between
          dsimp only
          generalize gatherSteps visit items between = run at rest ⊢
          cases rest with
          | error error last later => exact .error error last (reached.trans later)
          | result others last later =>
              refine .result (part ++ others) last (reached.trans ?_)
              rwa [← List.append_assoc]

/-- The build of each nested record gives what the descent gives. -/
def Descending (compiler : Compiler) (base : Search) (descent : Descent) (name : String) : Prop :=
  ∀ frame site target record finished, frame.record.name = name →
    compiler.schema.record? target = some record →
    compiler.Performs { base with callers := ⟨frame, site⟩ :: base.callers }
      { base with task := .build record, callers := ⟨frame, site⟩ :: base.callers, finished }
      (fun plan finished =>
        { base with task := .answer plan, callers := ⟨frame, site⟩ :: base.callers, finished })
      (descent target finished)

variable {descent : Descent} {record : Record}

/-- The steps of a rule are performed in the frame of its record. -/
theorem ruleSteps_performs (descending : compiler.Descending base descent record.name)
    (field : Field) (rule : Rule) (fields : List Field) (rules : List (Field × Rule))
    (steps : List Step) (finished : Finished) :
    compiler.Performs base
      { base with task := .walk ⟨record, fields, (field, rule) :: rules, steps⟩, finished }
      (fun part finished =>
        { base with task := .walk ⟨record, fields, rules, steps ++ part⟩, finished })
      (compiler.ruleSteps descent record field rule finished) := by
  have applied : compiler.next?
      { base with task := .walk ⟨record, fields, (field, rule) :: rules, steps⟩, finished } =
        some (compiler.applyRule
          { base with task := .walk ⟨record, fields, (field, rule) :: rules, steps⟩, finished }
          ⟨record, fields, rules, steps⟩ field rule) := rfl
  rw [ruleSteps]
  rw [applyRule] at applied
  cases resolved : compiler.registry.resolve record field rule with
  | error error =>
      simp only [resolved] at applied ⊢
      exact .error _ finished (.single applied)
  | ok resolution =>
      cases resolution with
      | check check =>
          simp only [resolved] at applied ⊢
          exact .result _ finished (.single applied)
      | descend =>
          simp only [resolved] at applied ⊢
          rw [descendSteps]
          cases nesting : compiler.nesting with
          | defer =>
              simp only [nesting] at applied ⊢
              exact .result _ finished (.single applied)
          | resolve =>
              cases known : compiler.schema.record? field.typeName with
              | none =>
                  simp only [nesting, known] at applied ⊢
                  exact .error _ finished (.single applied)
              | some target =>
                  simp only [nesting, known] at applied ⊢
                  have nested := descending ⟨record, fields, rules, steps⟩ (field.site rule)
                    field.typeName target finished rfl known
                  generalize descent field.typeName finished = run at nested ⊢
                  cases nested with
                  | error error last reached =>
                      refine .error error last (.head applied (reached.tail ?_))
                      rfl
                  | result plan last reached =>
                      have answered : compiler.Continues
                          { base with
                            task := .walk ⟨record, fields, (field, rule) :: rules, steps⟩
                            finished }
                          { base with
                            task := .walk ⟨record, fields, rules,
                              steps ++ nestedSteps (field.site rule) plan⟩, finished := last } :=
                        .head applied (reached.tail rfl)
                      cases plan <;> exact .result _ last answered

/-- The steps of a field are performed in the frame of its record. -/
theorem fieldSteps_performs (descending : compiler.Descending base descent record.name)
    (field : Field) (fields : List Field) (steps : List Step) (finished : Finished) :
    compiler.Performs base
      { base with task := .walk ⟨record, field :: fields, [], steps⟩, finished }
      (fun part finished =>
        { base with task := .walk ⟨record, fields, [], steps ++ part⟩, finished })
      (compiler.fieldSteps descent record field finished) := by
  have read : compiler.next?
      { base with task := .walk ⟨record, field :: fields, [], steps⟩, finished } =
        some (compiler.walkFrame
          { base with task := .walk ⟨record, field :: fields, [], steps⟩, finished }
          ⟨record, field :: fields, [], steps⟩) := rfl
  rw [fieldSteps]
  rw [walkFrame] at read
  cases tag : readTag field.name field.tag with
  | error error =>
      simp only [tag] at read ⊢
      exact .error _ finished (.single read)
  | ok rules =>
      simp only [tag] at read ⊢
      refine .of_continues (.single read) ?_
      exact gatherSteps_performs
        (fun rules steps finished =>
          { base with
            task := .walk ⟨record, fields, rules.map fun rule => (field, rule), steps⟩, finished })
        (fun rule rules steps finished =>
          ruleSteps_performs descending field rule fields _ steps finished) rules steps finished

/-- A record that is entered is built. -/
theorem build_performs (descending : compiler.Descending base descent record.name)
    (finished : Finished) :
    compiler.Performs base { base with task := .enter record, finished }
      (fun plan finished => { base with task := .answer plan, finished })
      (compiler.build descent record finished) := by
  have walked := gatherSteps_performs
    (fun fields steps finished =>
      { base with task := .walk ⟨record, fields, [], steps⟩, finished })
    (fun field fields steps finished =>
      fieldSteps_performs descending field fields steps finished) record.fields [] finished
  refine .of_continues (.single (show _ = some _ from rfl)) ?_
  rw [build]
  generalize gatherSteps (compiler.fieldSteps descent record) record.fields finished = run
    at walked ⊢
  cases walked with
  | error error last reached => exact .error error last reached
  | result steps last reached => exact .result _ _ (reached.tail rfl)

theorem visit_known {name : String} (found : compiler.schema.record? name = some record)
    (path : List String) (finished : Finished) :
    compiler.visit path name finished =
      match finished.lookup name with
      | some plan => .ok (plan, finished)
      | none =>
          if path.contains name = false then
            compiler.build (compiler.visit (path ++ [name])) record finished
          else .error (.cycle (loop path name)) := by
  rw [visit]
  split
  · next missing => cases missing.symm.trans found
  · next other known =>
      cases known.symm.trans found
      rfl

/-- A build is answered from the table, or enters its record, or closes a loop. -/
theorem next?_build (base : Search) (record : Record) (finished : Finished) :
    compiler.next? { base with task := .build record, finished } =
      match finished.lookup record.name with
      | some plan => some { base with task := .answer plan, finished }
      | none =>
          if base.waiting.contains record.name = false then
            some { base with task := .enter record, finished }
          else
            some { base with
              task := .refuse (.cycle (loop base.waiting record.name)), finished } :=
  rfl

/-- A build of a record gives what a visit of its name gives. -/
theorem visit_performs {path : List String} {name : String} (base : Search) (finished : Finished)
    (waiting : base.waiting = path) (found : compiler.schema.record? name = some record) :
    compiler.Performs base { base with task := .build record, finished }
      (fun plan finished => { base with task := .answer plan, finished })
      (compiler.visit path name finished) := by
  have named := Schema.record?_name found
  have asked := compiler.next?_build base record finished
  rw [named, waiting] at asked
  -- The base is general in the induction, since a nested build has one more caller than its own.
  induction path, name, finished using visit.induct compiler generalizing base record with
  | case1 path name finished missing => cases missing.symm.trans found
  | case2 path name finished other known plan stored =>
      rw [visit_known found]
      simp only [stored] at asked ⊢
      exact .result _ _ (.single asked)
  | case3 path name finished other known absent fresh inductionHypothesis =>
      rw [visit_known found]
      simp only [absent, fresh, if_true] at asked ⊢
      refine .of_continues (.single asked) (build_performs ?_ finished)
      intro frame site target nested between framed targetFound
      have further : Search.waiting
          { base with callers := ⟨frame, site⟩ :: base.callers } = path ++ [name] := by
        rw [← waiting, ← named, ← framed]
        simp [Search.waiting]
      have targetNamed := Schema.record?_name targetFound
      have askedAgain := compiler.next?_build
        { base with callers := ⟨frame, site⟩ :: base.callers } nested between
      rw [targetNamed, further] at askedAgain
      exact inductionHypothesis target between _ further targetFound targetNamed askedAgain
  | case4 path name finished other known absent visited =>
      rw [visit_known found]
      simp only [absent, visited] at asked ⊢
      exact .error _ _ (.single asked)

/-! ### Whole searches -/

/-- The search comes to an end with the result. -/
def Ends (compiler : Compiler) (start : Search)
    (result : Except CompileError (List Plan)) : Prop :=
  ∃ last, compiler.Continues start last ∧ last.outcome? = some result

/-- A search takes no step if and only if it has an outcome. -/
theorem next?_eq_none_iff {search : Search} :
    compiler.next? search = none ↔ search.outcome?.isSome = true := by
  obtain ⟨task, callers, finished, roots, plans⟩ := search
  rw [next?, Search.outcome?]
  dsimp only
  cases task with
  | rest =>
      cases roots with
      | nil => simp
      | cons name roots => cases known : compiler.schema.record? name <;> simp [known]
  | build record =>
      dsimp only
      cases finished.lookup record.name with
      | some plan => simp
      | none =>
          dsimp only
          split <;> simp
  | enter record => simp
  | walk frame => simp
  | answer plan => cases callers <;> simp
  | refuse error => cases callers <;> simp

/-- The roots are compiled one after the other, with one table. -/
theorem compileNames_ends (names : List String) (finished : Finished) (plans : List Plan) :
    compiler.Ends ⟨.rest, [], finished, names, plans⟩
      ((compiler.compileNames names finished).map (plans ++ ·)) := by
  induction names generalizing finished plans with
  | nil => exact ⟨_, .refl, by simp [Search.outcome?, compileNames, Except.map]⟩
  | cons name names inductionHypothesis =>
      rw [compileNames]
      cases found : compiler.schema.record? name with
      | none =>
          have asked : compiler.next? ⟨.rest, [], finished, name :: names, plans⟩ =
              some ⟨.refuse (.unknownRecord name), [], finished, names, plans⟩ := by
            simp [next?, found]
          have unknown : compiler.visit [] name finished = .error (.unknownRecord name) := by
            rw [visit]
            split
            · rfl
            · next known => cases found.symm.trans known
          rw [unknown]
          exact ⟨_, .single asked, rfl⟩
      | some record =>
          have asked : compiler.next? ⟨.rest, [], finished, name :: names, plans⟩ =
              some ⟨.build record, [], finished, names, plans⟩ := by
            simp [next?, found]
          have visited :=
            visit_performs ⟨.build record, [], finished, names, plans⟩ finished rfl found
          simp only [Search.waiting, List.map_nil, List.reverse_nil] at visited
          generalize compiler.visit [] name finished = run at visited ⊢
          cases visited with
          | error error last reached => exact ⟨_, .head asked reached, rfl⟩
          | result plan last reached =>
              obtain ⟨final, rest, outcome⟩ := inductionHypothesis last (plans ++ plan.toList)
              have answered : compiler.next? ⟨.answer plan, [], last, names, plans⟩ =
                  some ⟨.rest, [], last, names, plans ++ plan.toList⟩ := rfl
              refine ⟨final, .head asked (reached.trans (.head answered rest)), ?_⟩
              rw [outcome]
              dsimp only
              cases compiler.compileNames names last <;> simp [Except.map]

/-- A record that need not be in the schema is compiled as the only root. -/
theorem compileRecord_ends (record : Record) :
    compiler.Ends (Root.given record |>.start compiler)
      ((compiler.compileRecord record).map Option.toList) := by
  have descending : compiler.Descending ⟨.enter record, [], [], [], []⟩
      (compiler.visit [record.name]) record.name := by
    intro frame site target nested finished framed found
    refine visit_performs _ _ ?_ found
    simp [Search.waiting, framed]
  have built := build_performs descending []
  have asked : compiler.next? (Root.given record |>.start compiler) =
      some ⟨.enter record, [], [], [], []⟩ := rfl
  rw [compileRecord]
  generalize compiler.build (compiler.visit [record.name]) record [] = run at built ⊢
  cases built with
  | error error last reached => exact ⟨_, .head asked reached, rfl⟩
  | result plan last reached =>
      refine ⟨_, .head asked (reached.tail rfl), ?_⟩
      simp [Search.outcome?, Except.map]

/-- Each search ends with the result of the compilation that it takes apart. -/
theorem search_ends (compiler : Compiler) (root : Root) :
    compiler.Ends (root.start compiler) (root.compile compiler) := by
  cases root with
  | named name =>
      have single := compiler.compileNames_ends [name] [] []
      have same : (compiler.compileNames [name] []).map ([] ++ ·) =
          (compiler.compile name).map Option.toList := by
        rw [compileNames, compile]
        cases compiler.visit [] name [] <;> simp [compileNames, Except.map]
      rwa [same] at single
  | given record => exact compiler.compileRecord_ends record
  | all =>
      have whole := compiler.compileNames_ends
        (firstSeen (compiler.schema.records.map Record.name)) [] []
      have same : (compiler.compileNames (firstSeen (compiler.schema.records.map Record.name))
          []).map ([] ++ ·) = compiler.compileAll.map PlanSet.plans := by
        rw [compileAll]
        cases compiler.compileNames (firstSeen (compiler.schema.records.map Record.name)) [] <;>
          simp [Except.map]
      rwa [same] at whole

variable {start search last : Search}

/-- All that a search comes to is on the way to its end. -/
theorem continues_of_ended (ended : compiler.next? last = none)
    (reached : compiler.Continues start last) (between : compiler.Continues start search) :
    compiler.Continues search last := by
  have single : Relator.RightUnique fun search later => compiler.next? search = some later := by
    intro search later other first second
    exact Option.some.inj (first.symm.trans second)
  rcases ReflTransGen.total_of_right_unique single reached between with beyond | before
  · rcases beyond.cases_head with rfl | ⟨later, step, -⟩
    · exact .refl
    · cases ended.symm.trans step
  · exact before

/-- No endless search starts where a search ends. -/
theorem acc_of_ended (ended : compiler.next? last = none)
    (reached : compiler.Continues start last) :
    Acc (fun later search => compiler.next? search = some later) start := by
  induction reached using ReflTransGen.head_induction_on with
  | refl => exact ⟨_, fun later step => by cases ended.symm.trans step⟩
  | head step _ inductionHypothesis =>
      refine ⟨_, fun later other => ?_⟩
      cases step.symm.trans other
      exact inductionHypothesis

end

end Compiler

end FieldRules
