import FieldRules.Proofs.Plan.Loop
import Mathlib.Data.List.Nodup

/-!
This file shows that a record depends only on the records that its nesting reaches. Schemas that
agree on these records give it the same plan or the same error, so it does not matter in which order
the records stand and which records are added beside them.
-/

namespace FieldRules

open Relation

namespace Schema

/-- Two schemas have the same records under the names that are reached. -/
def AgreesBelow (schema other : Schema) (name : String) : Prop :=
  ∀ reached, ReflTransGen schema.Nests name reached →
    schema.record? reached = other.record? reached

/-- If no name occurs twice, each record is found under its name. -/
theorem record?_eq_some_iff {schema : Schema} (distinct : (schema.records.map Record.name).Nodup)
    {name : String} {record : Record} :
    schema.record? name = some record ↔ record ∈ schema.records ∧ record.name = name := by
  constructor
  · intro found
    exact ⟨List.mem_of_find?_eq_some found, record?_name found⟩
  · rintro ⟨member, rfl⟩
    obtain ⟨other, found⟩ : ∃ other, schema.record? record.name = some other :=
      Option.isSome_iff_exists.1 (List.find?_isSome.2 ⟨record, member, by simp⟩)
    have same := List.inj_on_of_nodup_map distinct (List.mem_of_find?_eq_some found) member
      (record?_name found)
    rw [found, same]

/-- The order of records with distinct names does not matter. -/
theorem record?_of_perm {schema other : Schema} (moved : schema.records.Perm other.records)
    (distinct : (schema.records.map Record.name).Nodup) (name : String) :
    schema.record? name = other.record? name := by
  have otherDistinct : (other.records.map Record.name).Nodup :=
    (moved.map Record.name).nodup_iff.1 distinct
  ext record
  rw [record?_eq_some_iff distinct, record?_eq_some_iff otherDistinct, moved.mem_iff]

/-- Records change places beside each other if those of one name keep their order. -/
theorem record?_of_filter {schema other : Schema} {name : String}
    (kept : (schema.records.filter fun record => record.name == name) =
      other.records.filter fun record => record.name == name) :
    schema.record? name = other.record? name := by
  rw [record?, record?, ← List.head?_filter, ← List.head?_filter, kept]

/-- Added records do not matter if their names are not reached or are taken. -/
theorem agreesBelow_of_added {before added after : List Record} {name : String}
    (beside : ∀ record ∈ added,
      ¬ReflTransGen (Schema.mk (before ++ after)).Nests name record.name ∨
        ∃ earlier ∈ before, earlier.name = record.name) :
    (Schema.mk (before ++ after)).AgreesBelow ⟨before ++ added ++ after⟩ name := by
  intro reached reaches
  simp only [record?, List.find?_append]
  cases found : before.find? fun record => record.name == reached with
  | some record => rfl
  | none =>
      have unfound : added.find? (fun record => record.name == reached) = none := by
        rw [List.find?_eq_none]
        intro record member
        rw [beq_iff_eq]
        rintro rfl
        rcases beside record member with unreached | ⟨earlier, earlierMember, same⟩
        · exact unreached reaches
        · exact List.find?_eq_none.1 found earlier earlierMember (by simpa using same)
      rw [unfound]
      rfl

end Schema

namespace Compiler

/-- The walk stays below the name, so both schemas give the same result. -/
theorem direct_withSchema {compiler : Compiler} {schema : Schema} {path : List String} {name : String}
    (agree : ∀ reached, ReflTransGen compiler.Descends name reached →
      compiler.schema.record? reached = schema.record? reached) :
    compiler.direct path name = (compiler.withSchema schema).direct path name := by
  induction path, name using direct.induct compiler with
  | case1 path name missing =>
      have unknown : (compiler.withSchema schema).schema.record? name = none :=
        (agree name .refl).symm.trans missing
      rw [direct_unknown missing, direct_unknown unknown]
  | case2 path name record found fresh inductionHypothesis =>
      have known : (compiler.withSchema schema).schema.record? name = some record :=
        (agree name .refl).symm.trans found
      rw [direct_known found, direct_known known, if_pos fresh, if_pos fresh]
      refine directBuild_withSchema fun target leads => ?_
      have descends : compiler.Descends name target := ⟨record, found, leads⟩
      exact ⟨agree target (.single descends),
        inductionHypothesis target fun reached reaches => agree reached (.head descends reaches)⟩
  | case3 path name record found visited =>
      have known : (compiler.withSchema schema).schema.record? name = some record :=
        (agree name .refl).symm.trans found
      rw [direct_known found, direct_known known, if_neg visited, if_neg visited]

/-- The rules of the table descend only where the tags of the schema nest. -/
theorem compile_of_agreesBelow {schema other : Schema} {name : String}
    (agree : schema.AgreesBelow other name) (nesting : Nesting)
    (removed : List (Keyword × Kind)) :
    (lacking schema nesting removed).compile name =
      (lacking other nesting removed).compile name := by
  have nests (source target : String)
      (descends : (lacking schema nesting removed).Descends source target) :
      schema.Nests source target := by
    obtain ⟨record, found, leads⟩ := descends
    exact ⟨record, found,
      nests_of_leads_of_table (Registry.keepsToTable_builtin_without removed) leads⟩
  rw [compile_eq_direct, compile_eq_direct]
  exact direct_withSchema fun reached reaches => agree reached (ReflTransGen.mono nests _ _ reaches)

/-- A compilation depends only on the records that its own record reaches. -/
theorem compile_depends_on_reached (nesting : Nesting) (removed : List (Keyword × Kind))
    (name : String) :
    (∀ schema other : Schema, schema.AgreesBelow other name →
      (lacking schema nesting removed).compile name =
        (lacking other nesting removed).compile name) ∧
    (∀ schema other : Schema, schema.records.Perm other.records →
      (schema.records.map Record.name).Nodup →
        (lacking schema nesting removed).compile name =
          (lacking other nesting removed).compile name) ∧
    (∀ schema other : Schema,
      (∀ named, (schema.records.filter fun record => record.name == named) =
        other.records.filter fun record => record.name == named) →
      (lacking schema nesting removed).compile name =
        (lacking other nesting removed).compile name) ∧
    ∀ before added after : List Record,
      (∀ record ∈ added,
        ¬ReflTransGen (Schema.mk (before ++ after)).Nests name record.name ∨
          ∃ earlier ∈ before, earlier.name = record.name) →
      (lacking ⟨before ++ after⟩ nesting removed).compile name =
        (lacking ⟨before ++ added ++ after⟩ nesting removed).compile name := by
  refine ⟨fun schema other agree => ?_, fun schema other moved distinct => ?_,
    fun schema other kept => ?_, fun before added after beside => ?_⟩
  · exact compile_of_agreesBelow agree nesting removed
  · have agree : schema.AgreesBelow other name :=
      fun reached _ => Schema.record?_of_perm moved distinct reached
    exact compile_of_agreesBelow agree nesting removed
  · have agree : schema.AgreesBelow other name :=
      fun reached _ => Schema.record?_of_filter (kept reached)
    exact compile_of_agreesBelow agree nesting removed
  · exact compile_of_agreesBelow (Schema.agreesBelow_of_added beside) nesting removed

end Compiler

end FieldRules
