import FieldRules.Proofs.Pattern.Store

/-!
This file shows that the bounded cache is a store on which its users can rely, so it cannot be seen
either.
-/

namespace FieldRules

namespace Pattern.Cache

/-- The cache holds what stands in its list. -/
def Holds (cache : Cache) (text : String) (pattern : Pattern) : Prop :=
  (text, pattern) ∈ cache

/-- The cache may lose any of its entries. -/
def Loses (cache kept : Cache) : Prop :=
  kept.Sublist cache

theorem lawful : store.Lawful Holds Loses where
  start text pattern held := List.not_mem_nil held
  find cache text pattern found := by
    obtain ⟨before, after, same, -⟩ := List.lookup_eq_some_iff.1 found
    simp [Holds, same]
  insert cache text pattern other found held := by
    rcases List.mem_cons.1 (List.mem_of_mem_take held) with same | member
    · exact .inl (Prod.mk.inj same)
    · exact .inr (List.mem_filter.1 member).1
  loss cache kept text pattern lost held := lost.subset held

/-- The lookups and losses of a cache bring its store to the same states. -/
theorem Reached.ofStore {cache : Cache} (reached : cache.Reached) :
    store.Reached Loses cache [] := by
  induction reached with
  | empty => exact .start
  | lookup cache text _ inductionHypothesis => exact inductionHypothesis.lookup text
  | loss cache kept _ part inductionHypothesis => exact .loss inductionHypothesis part

end Pattern.Cache

/-- A check for a pattern is the same from each cache that can be reached. -/
theorem Check.satisfiesFrom_eq {cache : Pattern.Cache} (reached : cache.Reached) {text : String}
    {pattern : Pattern} (compiled : Pattern.compile? text = some pattern) (field input : String) :
    Check.satisfiesFrom cache field input text =
      (Check.matchesPattern field input pattern, (cache.compile? text).2) := by
  have known := reached.ofStore.compile?_eq Pattern.Cache.lawful text
  rw [compiled] at known
  rw [Check.satisfiesFrom, Check.satisfiesIn, Pattern.Cache.compile?]
  generalize Pattern.Cache.store.compile? cache text = answer at known ⊢
  obtain ⟨found, last⟩ := answer
  cases known
  rfl

end FieldRules
