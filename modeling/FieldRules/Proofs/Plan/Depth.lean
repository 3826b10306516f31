import FieldRules.Proofs.Plan.Search
import Mathlib.Data.List.Nodup
import Mathlib.Data.List.Perm.Subperm

/-!
This file bounds the search of a compilation. A record that is being built is neither finished nor
built a second time, so builds nest no deeper than there are names, and each record is walked once.
-/

namespace FieldRules

open Relation

namespace Search

/-- The names of the records that are being built, from the outermost on. -/
def visiting (search : Search) : List String :=
  search.waiting ++
    match search.task with
    | .enter record => [record.name]
    | .walk frame => [frame.record.name]
    | _ => []

/-- The name of the record whose fields are about to be walked. -/
def entered (search : Search) : List String :=
  match search.task with
  | .enter record => [record.name]
  | _ => []

/-- The names that are finished, with and without a plan. -/
def done (search : Search) : List String :=
  search.finished.map Prod.fst

/-- An error leaves the builds of the search. -/
def IsRefused (search : Search) : Prop :=
  ∃ error, search.task = .refuse error

theorem lookup_eq_none_iff {search : Search} {name : String} :
    search.finished.lookup name = none ↔ name ∉ search.done := by
  rw [List.lookup_eq_none_iff, done, List.mem_map]
  constructor
  · rintro absent ⟨entry, member, rfl⟩
    simpa using absent entry member
  · intro absent entry member
    rw [bne_iff_ne]
    rintro rfl
    exact absent ⟨entry, member, rfl⟩

end Search

namespace Root

/-- The name of a record that need not be in the schema. -/
def own : Root → List String
  | .given record => [record.name]
  | _ => []

/-- A name is that of the root, or it is in the schema. -/
def Admits (compiler : Compiler) (root : Root) (name : String) : Prop :=
  name ∈ root.own ∨ name ∈ compiler.names

end Root

namespace Compiler

/-- A run of the search from its start enters the named records, in this order. -/
inductive Run (compiler : Compiler) (start : Search) : List String → Search → Prop
  | start : Run compiler start [] start
  | step {names : List String} {search later : Search} (run : Run compiler start names search)
      (next : compiler.next? search = some later) :
      Run compiler start (names ++ later.entered) later

/-- A step enters a record, finishes or drops the innermost one, or goes on. -/
inductive Move (compiler : Compiler) (search later : Search) : Prop
  | stay (unrefused : ¬search.IsRefused) (visiting : later.visiting = search.visiting)
      (finished : later.finished = search.finished) (entered : later.entered = [])
      (called : ∀ record, later.task = .build record → record ∈ compiler.schema.records)
  | enter (record : Record) (asked : search.task = .build record)
      (unfinished : record.name ∉ search.done) (fresh : record.name ∉ search.visiting)
      (visiting : later.visiting = search.visiting ++ [record.name])
      (finished : later.finished = search.finished) (task : later.task = .enter record)
  | finish (name : String) (plan : Option Plan) (unrefused : ¬search.IsRefused)
      (visiting : search.visiting = later.visiting ++ [name])
      (finished : later.finished = (name, plan) :: search.finished)
      (task : later.task = .answer plan)
  | drop (name : String) (error : CompileError)
      (visiting : search.visiting = later.visiting ++ [name])
      (finished : later.finished = search.finished) (task : later.task = .refuse error)

section

variable {compiler : Compiler} {search later : Search}

theorem not_isRefused {task : Task} (doing : search.task = task)
    (other : ∀ error, task ≠ .refuse error) : ¬search.IsRefused := by
  rintro ⟨error, refused⟩
  exact other error (doing.symm.trans refused)

/-- A frame that goes on keeps its record, and an error drops it. -/
theorem move_of_walkFrame {frame : Frame} (walks : search.task = .walk frame) :
    compiler.Move search (compiler.walkFrame search frame) := by
  have unrefused := not_isRefused walks (by simp)
  have own : search.visiting = search.waiting ++ [frame.record.name] := by
    rw [Search.visiting, walks]
  have walked (other : Frame) (same : other.record = frame.record) :
      compiler.Move search { search with task := .walk other } :=
    .stay unrefused (by rw [own, ← same]; rfl) rfl rfl (by simp)
  have refused (error : CompileError) :
      compiler.Move search { search with task := .refuse error } :=
    .drop frame.record.name error (by rw [own]; simp [Search.visiting, Search.waiting]) rfl rfl
  rw [walkFrame]
  split
  · rw [applyRule]
    split
    · exact refused _
    · exact walked _ rfl
    · split
      · exact walked _ rfl
      · split
        · exact refused _
        · next target found =>
            refine .stay unrefused ?_ rfl rfl ?_
            · rw [own]
              simp [Search.visiting, Search.waiting]
            · rintro record ⟨⟩
              exact List.mem_of_find?_eq_some found
  · split
    · exact refused _
    · exact walked _ rfl
  · refine .finish frame.record.name _ unrefused ?_ rfl rfl
    rw [own]
    simp [Search.visiting, Search.waiting]

/-- A build that is asked for enters its record only if no build has entered it. -/
theorem move_of_build {record : Record} (asked : search.task = .build record)
    (next : compiler.next? search = some later) : compiler.Move search later := by
  have unrefused := not_isRefused asked (by simp)
  have own : search.visiting = search.waiting := by simp [Search.visiting, asked]
  rw [next?, asked] at next
  dsimp only at next
  cases stored : search.finished.lookup record.name with
  | some plan =>
      rw [stored] at next
      cases next
      refine .stay unrefused ?_ rfl rfl (by simp)
      rw [own]
      simp [Search.visiting, Search.waiting]
  | none =>
      rw [stored] at next
      dsimp only at next
      cases visited : search.waiting.contains record.name with
      | false =>
          rw [visited, if_pos rfl] at next
          cases next
          refine .enter record asked (Search.lookup_eq_none_iff.1 stored) ?_ ?_ rfl rfl
          · simpa [own] using visited
          · rw [own]
            rfl
      | true =>
          rw [visited, if_neg (by decide)] at next
          cases next
          refine .stay unrefused ?_ rfl rfl (by simp)
          rw [own]
          simp [Search.visiting, Search.waiting]

/-- Each step is a move. -/
theorem move_of_next? (next : compiler.next? search = some later) :
    compiler.Move search later := by
  cases doing : search.task with
  | build record => exact move_of_build doing next
  | rest =>
      have unrefused := not_isRefused doing (by simp)
      rw [next?, doing] at next
      cases waits : search.roots with
      | nil =>
          rw [waits] at next
          cases next
      | cons name roots =>
          rw [waits] at next
          dsimp only at next
          cases found : compiler.schema.record? name with
          | none =>
              rw [found] at next
              cases next
              refine .stay unrefused ?_ rfl rfl (by simp)
              simp [Search.visiting, Search.waiting, doing]
          | some record =>
              rw [found] at next
              cases next
              refine .stay unrefused ?_ rfl rfl ?_
              · simp [Search.visiting, Search.waiting, doing]
              · rintro record ⟨⟩
                exact List.mem_of_find?_eq_some found
  | enter record =>
      rw [next?, doing] at next
      cases next
      refine .stay (not_isRefused doing (by simp)) ?_ rfl rfl (by simp)
      rw [Search.visiting, Search.visiting, doing]
      rfl
  | walk frame =>
      rw [next?, doing] at next
      cases next
      exact move_of_walkFrame doing
  | answer plan =>
      have unrefused := not_isRefused doing (by simp)
      rw [next?, doing] at next
      cases waits : search.callers with
      | nil =>
          rw [waits] at next
          cases next
          refine .stay unrefused ?_ rfl rfl (by simp)
          simp [Search.visiting, Search.waiting, doing, waits]
      | cons caller callers =>
          rw [waits] at next
          cases next
          refine .stay unrefused ?_ rfl rfl (by simp)
          simp [Search.visiting, Search.waiting, doing, waits, Frame.add]
  | refuse error =>
      rw [next?, doing] at next
      cases waits : search.callers with
      | nil =>
          rw [waits] at next
          cases next
      | cons caller callers =>
          rw [waits] at next
          cases next
          refine .drop caller.frame.record.name error ?_ rfl rfl
          simp [Search.visiting, Search.waiting, doing, waits]

/-- The entered names are those that are built or finished, without repetition. -/
structure Keeps (compiler : Compiler) (root : Root) (names : List String) (search : Search) :
    Prop where
  distinct : (search.done ++ search.visiting).Nodup
  inside : ∀ name ∈ search.visiting, root.Admits compiler name
  called : ∀ record, search.task = .build record → root.Admits compiler record.name
  once : names.Nodup
  known : ¬search.IsRefused → ∀ name ∈ names, name ∈ search.done ++ search.visiting

variable {root : Root} {names : List String}

/-- At its start a search builds nothing and asks only for its root. -/
theorem Keeps.of_start : compiler.Keeps root [] (root.start compiler) := by
  have idle : (root.start compiler).visiting = [] := by cases root <;> rfl
  have undone : (root.start compiler).done = [] := by cases root <;> rfl
  refine ⟨by simp [idle, undone], by simp [idle], fun record asked => ?_, .nil, by simp⟩
  cases root with
  | given own =>
      cases asked
      exact .inl List.mem_cons_self
  | named name => cases asked
  | all => cases asked

theorem Keeps.step (keeps : compiler.Keeps root names search)
    (next : compiler.next? search = some later) :
    compiler.Keeps root (names ++ later.entered) later := by
  cases move_of_next? next with
  | stay unrefused visiting finished entered called =>
      have done : later.done = search.done := by rw [Search.done, finished, Search.done]
      rw [entered, List.append_nil]
      refine ⟨?_, ?_, fun record asked => ?_, keeps.once, fun _ => ?_⟩
      · rw [done, visiting]
        exact keeps.distinct
      · rw [visiting]
        exact keeps.inside
      · exact .inr (mem_names_iff.2 ⟨record, called record asked, rfl⟩)
      · rw [done, visiting]
        exact keeps.known unrefused
  | enter record asked unfinished fresh visiting finished task =>
      have done : later.done = search.done := by rw [Search.done, finished, Search.done]
      have entered : later.entered = [record.name] := by rw [Search.entered, task]
      have absent : record.name ∉ search.done ++ search.visiting := by
        rw [List.mem_append]
        exact not_or.2 ⟨unfinished, fresh⟩
      have known := keeps.known (not_isRefused asked (by simp))
      refine ⟨?_, ?_, fun other building => ?_, ?_, fun _ name member => ?_⟩
      · rw [done, visiting, ← List.append_assoc, ← List.concat_eq_append]
        exact keeps.distinct.concat absent
      · rw [visiting, List.forall_mem_append]
        exact ⟨keeps.inside, by simpa using keeps.called record asked⟩
      · cases task.symm.trans building
      -- No error has dropped a name yet, so a name that was entered before would still be known.
      · rw [entered, ← List.concat_eq_append]
        exact keeps.once.concat fun member => absent (known record.name member)
      · rw [done, visiting, ← List.append_assoc, List.mem_append]
        rw [entered] at member
        exact (List.mem_append.1 member).imp_left (known name)
  | finish name plan unrefused visiting finished task =>
      have done : later.done = name :: search.done := by rw [Search.done, finished]; rfl
      have entered : later.entered = [] := by rw [Search.entered, task]
      -- The innermost name goes from the stack to the table, so both have the same names together.
      have moved : (later.done ++ later.visiting).Perm (search.done ++ search.visiting) := by
        rw [done, visiting, ← List.append_assoc]
        exact List.perm_append_singleton name _ |>.symm
      rw [entered, List.append_nil]
      refine ⟨moved.nodup_iff.2 keeps.distinct, fun name member => ?_, fun _ asked => ?_,
        keeps.once, fun _ name member => moved.mem_iff.2 (keeps.known unrefused name member)⟩
      · exact keeps.inside name (by rw [visiting]; exact List.mem_append_left _ member)
      · cases task.symm.trans asked
  | drop name error visiting finished task =>
      have done : later.done = search.done := by rw [Search.done, finished, Search.done]
      have entered : later.entered = [] := by rw [Search.entered, task]
      rw [entered, List.append_nil]
      refine ⟨?_, fun name member => ?_, fun _ asked => ?_, keeps.once, fun unrefused => ?_⟩
      · have longer := keeps.distinct
        rw [visiting, ← List.append_assoc, ← done] at longer
        exact (List.nodup_append.1 longer).1
      · exact keeps.inside name (by rw [visiting]; exact List.mem_append_left _ member)
      · cases task.symm.trans asked
      · exact absurd ⟨error, task⟩ unrefused

theorem Run.keeps (run : compiler.Run (root.start compiler) names search) :
    compiler.Keeps root names search := by
  induction run with
  | start => exact .of_start
  | step _ next inductionHypothesis => exact inductionHypothesis.step next

theorem Run.continues {start : Search} (run : compiler.Run start names search) :
    compiler.Continues start search := by
  induction run with
  | start => exact .refl
  | step _ next inductionHypothesis => exact inductionHypothesis.tail next

theorem exists_run_of_continues {start : Search} (reached : compiler.Continues start search) :
    ∃ names, compiler.Run start names search := by
  induction reached with
  | refl => exact ⟨[], .start⟩
  | tail _ next inductionHypothesis =>
      obtain ⟨names, run⟩ := inductionHypothesis
      exact ⟨_, run.step next⟩

end

/-- No name stands twice on the stack, and all are of the schema or the root. -/
structure IsBounded (compiler : Compiler) (root : Root) (search : Search) : Prop where
  distinct : search.visiting.Nodup
  apart : ∀ name ∈ search.visiting, name ∉ search.done
  inside : ∀ name ∈ search.visiting, root.Admits compiler name
  depth : search.visiting.length ≤ compiler.names.length + 1
  depth_of_known : (∀ name ∈ root.own, name ∈ compiler.names) →
    search.visiting.length ≤ compiler.names.length

theorem Keeps.isBounded {compiler : Compiler} {root : Root} {names : List String} {search : Search}
    (keeps : compiler.Keeps root names search) : compiler.IsBounded root search := by
  have distinct : search.visiting.Nodup := (List.nodup_append.1 keeps.distinct).2.1
  refine ⟨distinct, fun name built finished => ?_, keeps.inside, ?_, fun known => ?_⟩
  · exact (List.nodup_append.1 keeps.distinct).2.2 name finished name built rfl
  · have among : search.visiting ⊆ root.own ++ compiler.names :=
      fun name built => List.mem_append.2 (keeps.inside name built)
    have few : root.own.length ≤ 1 := by cases root <;> simp [Root.own]
    have shorter := (List.Nodup.subperm distinct among).length_le
    rw [List.length_append] at shorter
    omega
  · have among : search.visiting ⊆ compiler.names :=
      fun name built => (keeps.inside name built).elim (known name) id
    exact (List.Nodup.subperm distinct among).length_le

/-- A compilation is a search that ends and is bounded by the names of the schema. -/
theorem compilation_is_bounded_search (compiler : Compiler) (root : Root) :
    (∀ names search, compiler.Run (root.start compiler) names search →
      compiler.IsBounded root search ∧ names.Nodup) ∧
    Acc (fun later search => compiler.next? search = some later) (root.start compiler) ∧
    ∃ last, compiler.next? last = none ∧ last.outcome? = some (root.compile compiler) ∧
      (∃ names, compiler.Run (root.start compiler) names last) ∧
      ∀ names search, compiler.Run (root.start compiler) names search →
        compiler.Continues search last := by
  obtain ⟨last, reached, outcome⟩ := search_ends compiler root
  have ended : compiler.next? last = none := next?_eq_none_iff.2 (by simp [outcome])
  refine ⟨fun names search run => ⟨run.keeps.isBounded, run.keeps.once⟩,
    acc_of_ended ended reached, last, ended, outcome, exists_run_of_continues reached,
    fun names search run => continues_of_ended ended reached run.continues⟩

end Compiler

end FieldRules
