import FieldRules.Proofs.Plan.Nesting

/-!
This file shows that the table of finished records changes no result. The table holds only results
of direct compilations, so compiling a whole schema agrees with compiling each record alone.
-/

namespace FieldRules

/-- A run with a table has the direct result and a sound table. -/
inductive Agrees {Result : Type} (sound : Finished → Prop) :
    Except CompileError (Result × Finished) → Except CompileError Result → Prop
  | result (value : Result) (finished : Finished) (kept : sound finished) :
      Agrees sound (.ok (value, finished)) (.ok value)
  | error (error : CompileError) : Agrees sound (.error error) (.error error)

theorem gatherSteps_agrees {Item : Type} {sound : Finished → Prop}
    {visit : Item → Finished → Except CompileError (List Step × Finished)}
    {direct : Item → Except CompileError (List Step)} {items : List Item}
    (each : ∀ item ∈ items, ∀ finished, sound finished →
      Agrees sound (visit item finished) (direct item))
    {finished : Finished} (kept : sound finished) :
    Agrees sound (gatherSteps visit items finished) (joinSteps direct items) := by
  induction items generalizing finished with
  | nil => exact .result [] finished kept
  | cons item items inductionHypothesis =>
      rw [gatherSteps, joinSteps]
      have first := each item List.mem_cons_self finished kept
      generalize visit item finished = run at first ⊢
      generalize direct item = part at first ⊢
      cases first with
      | error error => exact .error error
      | result steps between kept =>
          have rest := inductionHypothesis
            (fun item member => each item (List.mem_cons_of_mem _ member)) kept
          dsimp only
          generalize gatherSteps visit items between = run at rest ⊢
          generalize joinSteps direct items = part at rest ⊢
          cases rest with
          | error error => exact .error error
          | result others last kept => exact .result (steps ++ others) last kept

namespace Compiler

theorem descendSteps_agrees {compiler : Compiler} {sound : Finished → Prop} {descent : Descent}
    {direct : DirectDescent} {record : Record} {field : Field} {rule : Rule}
    (nested : compiler.nesting = .resolve → ∀ finished, sound finished →
      Agrees sound (descent field.typeName finished) (direct field.typeName))
    {finished : Finished} (kept : sound finished) :
    Agrees sound (compiler.descendSteps descent record field (field.site rule) finished)
      (compiler.directNested direct record field rule) := by
  rw [descendSteps, directNested]
  cases nesting : compiler.nesting with
  | defer => exact .result _ finished kept
  | resolve =>
      cases compiler.schema.record? field.typeName with
      | none => exact .error _
      | some target =>
          have plan := nested nesting finished kept
          dsimp only
          generalize descent field.typeName finished = run at plan ⊢
          generalize direct field.typeName = part at plan ⊢
          cases plan with
          | error error => exact .error error
          | result plan last kept => cases plan <;> exact .result _ last kept

theorem ruleSteps_agrees {compiler : Compiler} {sound : Finished → Prop} {descent : Descent}
    {direct : DirectDescent} {record : Record} {field : Field} {rule : Rule}
    (nested : compiler.nesting = .resolve →
      compiler.registry.resolve record field rule = .ok .descend →
      ∀ finished, sound finished →
        Agrees sound (descent field.typeName finished) (direct field.typeName))
    {finished : Finished} (kept : sound finished) :
    Agrees sound (compiler.ruleSteps descent record field rule finished)
      (compiler.directRule direct record field rule) := by
  rw [ruleSteps, directRule]
  cases resolved : compiler.registry.resolve record field rule with
  | error error => exact .error _
  | ok resolution =>
      cases resolution with
      | check check => exact .result _ finished kept
      | descend => exact descendSteps_agrees (fun nesting => nested nesting resolved) kept

/-- The steps of a record agree if the records into which it descends agree. -/
theorem recordSteps_agrees {compiler : Compiler} {sound : Finished → Prop} {descent : Descent}
    {direct : DirectDescent} {record : Record}
    (descends : ∀ target, compiler.Leads record target → ∀ finished, sound finished →
      Agrees sound (descent target finished) (direct target))
    {finished : Finished} (kept : sound finished) :
    Agrees sound (gatherSteps (compiler.fieldSteps descent record) record.fields finished)
      (joinSteps (compiler.directField direct record) record.fields) := by
  refine gatherSteps_agrees (fun field fieldMember finished kept => ?_) kept
  rw [fieldSteps, directField]
  cases read : readTag field.name field.tag with
  | error error => exact .error _
  | ok rules =>
      refine gatherSteps_agrees (fun rule ruleMember finished kept => ?_) kept
      refine ruleSteps_agrees (fun nesting resolved => ?_) kept
      exact descends field.typeName
        ⟨nesting, field, fieldMember, rfl, rules, read, rule, ruleMember, resolved⟩

/-- A record agrees if the records below agree and its result is stored. -/
theorem build_agrees {compiler : Compiler} {sound stored : Finished → Prop} {descent : Descent}
    {direct : DirectDescent} {record : Record}
    (descends : ∀ target, compiler.Leads record target → ∀ finished, sound finished →
      Agrees sound (descent target finished) (direct target))
    (stores : ∀ plan, compiler.directBuild direct record = .ok plan →
      ∀ finished, sound finished → stored ((record.name, plan) :: finished))
    {finished : Finished} (kept : sound finished) :
    Agrees stored (compiler.build descent record finished) (compiler.directBuild direct record) := by
  have fields := recordSteps_agrees descends kept
  rw [directBuild] at stores ⊢
  rw [build]
  generalize gatherSteps (compiler.fieldSteps descent record) record.fields finished = run
    at fields ⊢
  generalize joinSteps (compiler.directField direct record) record.fields = part at fields stores ⊢
  cases fields with
  | error error => exact .error error
  | result steps last kept => exact .result _ _ (stores _ rfl last kept)

/-- Each entry of a table is the result of a direct compilation on the path. -/
def TableSoundOn (compiler : Compiler) (path : List String) (finished : Finished) : Prop :=
  ∀ name plan, finished.lookup name = some plan → compiler.direct path name = .ok plan

/-- Each entry of a sound table is the result of a direct compilation. -/
def TableSound (compiler : Compiler) (finished : Finished) : Prop :=
  ∀ name plan, finished.lookup name = some plan → compiler.direct [] name = .ok plan

theorem tableSoundOn_nil (compiler : Compiler) (path : List String) :
    compiler.TableSoundOn path [] := by
  intro name plan stored
  cases stored

theorem tableSound_nil (compiler : Compiler) : compiler.TableSound [] :=
  compiler.tableSoundOn_nil []

theorem TableSoundOn.store {compiler : Compiler} {path : List String} {finished : Finished}
    (sound : compiler.TableSoundOn path finished) {name : String} {plan : Option Plan}
    (compiled : compiler.direct path name = .ok plan) :
    compiler.TableSoundOn path ((name, plan) :: finished) := by
  intro other stored present
  rw [List.lookup_cons] at present
  split at present
  · next same =>
      rw [beq_iff_eq.1 same]
      cases present
      exact compiled
  · exact sound other stored present

end Compiler

theorem Schema.record?_name {schema : Schema} {name : String} {record : Record}
    (found : schema.record? name = some record) : record.name = name := by
  simpa using List.find?_some found

namespace Compiler

open Relation

/-- A stored result hides no loop through the records of the path. -/
theorem visit_agrees_on {compiler : Compiler} {base path : List String} {name : String}
    {finished : Finished} (sound : compiler.TableSoundOn base finished)
    (ancestors : ∀ ancestor ∈ path, TransGen compiler.Descends ancestor name) :
    Agrees (compiler.TableSoundOn base) (compiler.visit (base ++ path) name finished)
      (compiler.direct (base ++ path) name) := by
  generalize whole : base ++ path = walked
  induction walked, name, finished using visit.induct compiler generalizing path with
  | case1 walked name finished missing =>
      rw [direct_unknown missing, visit]
      split
      · exact .error _
      · next known => simp [missing] at known
  | case2 walked name finished record found plan stored =>
      -- The entry has a result on the base, so no record of the base is below it. The other records
      -- of the path are above it, and it lies on no loop.
      have alone := sound name plan stored
      have apart : ∀ ancestor ∈ walked, ¬ReflTransGen compiler.Descends name ancestor := by
        intro ancestor member reaches
        rw [← whole] at member
        rcases List.mem_append.1 member with member | member
        · exact direct_apart alone ancestor member reaches
        · exact not_transGen_of_acc (direct_acc alone) .refl
            (.trans_right reaches (ancestors ancestor member))
      rw [direct_path alone apart, visit]
      split
      · next missing => simp [missing] at found
      · simp only [stored]
        exact .result plan finished sound
  | case3 walked name finished record found absent fresh inductionHypothesis =>
      rw [direct_known found, if_pos fresh, visit]
      split
      · next missing => simp [missing] at found
      · next other known =>
          cases known.symm.trans found
          simp only [absent, fresh, dite_true]
          refine build_agrees (fun target leads finished sound => ?_) (fun plan built => ?_) sound
          · have descends : compiler.Descends name target := ⟨record, found, leads⟩
            have further : base ++ (path ++ [name]) = walked ++ [name] := by
              rw [← whole, List.append_assoc]
            refine inductionHypothesis target finished sound (fun ancestor member => ?_) further
            rcases List.mem_append.1 member with member | member
            · exact (ancestors ancestor member).tail descends
            · rw [List.mem_singleton.1 member]
              exact .single descends
          · -- The new result was computed on the whole path, and it is the same on the base.
            have compiled : compiler.direct walked name = .ok plan := by
              rw [direct_known found, if_pos fresh, built]
            have apart : ∀ ancestor ∈ base, ¬ReflTransGen compiler.Descends name ancestor :=
              fun ancestor member => direct_apart compiled ancestor
                (whole ▸ List.mem_append_left _ member)
            intro finished sound
            rw [Schema.record?_name found]
            exact sound.store (direct_path compiled apart)
  | case4 walked name finished record found absent visited =>
      rw [direct_known found, if_neg visited, visit]
      split
      · next missing => simp [missing] at found
      · simp only [absent, visited]
        exact .error _

/-- A run that starts with a sound table agrees with a direct compilation. -/
theorem visit_agrees {compiler : Compiler} {path : List String} {name : String}
    {finished : Finished} (sound : compiler.TableSound finished)
    (ancestors : ∀ ancestor ∈ path, TransGen compiler.Descends ancestor name) :
    Agrees compiler.TableSound (compiler.visit path name finished) (compiler.direct path name) :=
  visit_agrees_on (show compiler.TableSoundOn [] finished from sound) ancestors

/-- Compiling one record is the same with and without the table. -/
theorem compile_eq_direct (compiler : Compiler) (name : String) :
    compiler.compile name = compiler.direct [] name := by
  have agrees : Agrees compiler.TableSound (compiler.visit [] name []) (compiler.direct [] name) :=
    visit_agrees compiler.tableSound_nil (by simp)
  rw [compile]
  generalize compiler.visit [] name [] = run at agrees ⊢
  generalize compiler.direct [] name = part at agrees ⊢
  cases agrees <;> rfl

/-- The compilation of a record is its own descent into the nested records. -/
theorem compile_ok_iff {compiler : Compiler} {name : String} {plan : Option Plan} :
    compiler.compile name = .ok plan ↔
      ∃ record, compiler.schema.record? name = some record ∧
        compiler.directBuild compiler.compile record = .ok plan := by
  have same : compiler.compile = compiler.direct [] := funext (compile_eq_direct compiler)
  rw [same]
  exact direct_nil_ok_iff

/-- The descent that knows the result of one record only. -/
def knowing (target : String) (nested : Option Plan) : DirectDescent := fun name =>
  if name = target then .ok nested else .error (.unknownRecord name)

/-- A record compiles as it does if only one nested record is known. -/
theorem compile_of_nested {compiler : Compiler} {name target : String} {record : Record}
    {nested plan : Option Plan} (found : compiler.schema.record? name = some record)
    (compiled : compiler.compile target = .ok nested)
    (built : compiler.directBuild (knowing target nested) record = .ok plan) :
    compiler.compile name = .ok plan := by
  refine compile_ok_iff.2 ⟨record, found, directBuild_mono built fun other _ result answered => ?_⟩
  rw [knowing] at answered
  split at answered
  · next same =>
      cases answered
      rw [same, compiled]
  · cases answered

/-! ### Records by themselves -/

/-- Compiling a record by itself is the same with and without the table. -/
theorem compileRecord_eq_direct (compiler : Compiler) (record : Record) :
    compiler.compileRecord record =
      compiler.directBuild (compiler.direct [record.name]) record := by
  have agrees : Agrees (fun _ => True) (compiler.build (compiler.visit [record.name]) record [])
      (compiler.directBuild (compiler.direct [record.name]) record) := by
    refine build_agrees (fun target leads finished sound => ?_) (fun _ _ _ _ => trivial)
      (compiler.tableSoundOn_nil [record.name])
    exact visit_agrees_on sound (fun ancestor member => absurd member List.not_mem_nil)
  rw [compileRecord]
  generalize compiler.build (compiler.visit [record.name]) record [] = run at agrees ⊢
  generalize compiler.directBuild (compiler.direct [record.name]) record = part at agrees ⊢
  cases agrees <;> rfl

/-- A record of the schema compiles by itself as it does by its name. -/
theorem compile_eq_compileRecord {compiler : Compiler} {name : String} {record : Record}
    (found : compiler.schema.record? name = some record) :
    compiler.compile name = compiler.compileRecord record := by
  rw [compile_eq_direct, direct_known found, if_pos List.contains_nil, compileRecord_eq_direct,
    Schema.record?_name found, List.nil_append]

/-- The result of a record by itself is built from the results of the nested records. -/
theorem directBuild_of_compileRecord {compiler : Compiler} {record : Record}
    {plan : Option Plan} (compiled : compiler.compileRecord record = .ok plan) :
    compiler.directBuild compiler.compile record = .ok plan := by
  rw [compileRecord_eq_direct] at compiled
  refine directBuild_mono compiled fun target _ nested descended => ?_
  rw [compile_eq_direct]
  exact direct_path descended (by simp)

end Compiler

end FieldRules
