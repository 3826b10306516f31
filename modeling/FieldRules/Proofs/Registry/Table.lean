import FieldRules.Registry.Builtin
import Mathlib.Data.List.Nodup

/-!
This file gives the laws of the table of a registry. Each operation changes one row of the table.
-/

namespace FieldRules

/-- Rows without those of a key have the old values for other keys. -/
theorem lookup_filter_ne {Key Value : Type} [BEq Key] [LawfulBEq Key] [DecidableEq Key]
    (rows : List (Key × Value)) (key other : Key) :
    (rows.filter fun row => row.1 != key).lookup other =
      if other = key then none else rows.lookup other := by
  induction rows with
  | nil => simp
  | cons row rows inductionHypothesis =>
      obtain ⟨first, value⟩ := row
      rw [List.filter_cons, List.lookup_cons]
      by_cases found : other = first
      · by_cases same : other = key
        · rw [← found, if_neg (by simp [same]), inductionHypothesis, if_pos same, if_pos same]
        · simp [← found, same]
      · have unseen : (other == first) = false := beq_false_of_ne found
        split
        · rw [List.lookup_cons, unseen]
          exact inductionHypothesis
        · rw [unseen]
          exact inductionHypothesis

namespace Registry

variable (registry : Registry) (keyword : Keyword) (kind : Kind)

theorem resolver?_drop (otherKeyword : Keyword) (otherKind : Kind) :
    (registry.drop keyword kind).resolver? otherKeyword otherKind =
      if (otherKeyword, otherKind) = (keyword, kind) then none
      else registry.resolver? otherKeyword otherKind :=
  lookup_filter_ne registry.rows _ _

theorem resolver?_put (resolver : Resolver) (otherKeyword : Keyword) (otherKind : Kind) :
    (registry.put keyword kind resolver).resolver? otherKeyword otherKind =
      if (otherKeyword, otherKind) = (keyword, kind) then some resolver
      else registry.resolver? otherKeyword otherKind := by
  have rest := registry.resolver?_drop keyword kind otherKeyword otherKind
  rw [resolver?] at rest ⊢
  rw [put, List.lookup_cons]
  by_cases same : (otherKeyword, otherKind) = (keyword, kind)
  · rw [beq_iff_eq.2 same, if_pos same]
  · rw [beq_false_of_ne same, if_neg same, rest, if_neg same]

theorem mem_pairs_iff :
    (keyword, kind) ∈ registry.pairs ↔ (registry.resolver? keyword kind).isSome = true := by
  rw [resolver?, List.lookup_isSome_iff, pairs, List.mem_map]
  exact exists_congr fun row => and_congr_right fun _ => eq_comm.trans beq_iff_eq.symm

theorem supports_eq :
    registry.supports keyword kind = (registry.resolver? keyword kind).isSome := by
  rw [Bool.eq_iff_iff, supports, List.contains_iff_mem, mem_pairs_iff]

theorem length_pairs : registry.pairs.length = registry.size :=
  List.length_map _

/-- The built-in table has these resolvers. -/
theorem resolver?_builtinOver (library : Pattern.Library) :
    (builtinOver library).resolver? keyword kind =
      match keyword, kind with
      | .required, .text => some (.always (.check .notEmpty))
      | .email, .text => some (.always (.check .email))
      | .url, .text => some (.always (.check .url))
      | .ip, .text => some (.always (.check .ip))
      | .regex, .text => some (.blaming (Resolver.patternOver library))
      | .min, .text => some (.blaming (Resolver.length .longerThan))
      | .max, .text => some (.blaming (Resolver.length .shorterThan))
      | .min, .integer => some (.blaming (Resolver.value .greaterThan))
      | .max, .integer => some (.blaming (Resolver.value .lessThan))
      | .equals, .text => some (.blaming Resolver.equality)
      | .equals, .integer => some (.blaming Resolver.equality)
      | .descend, .nested => some (.always .descend)
      | _, _ => none := by
  cases keyword <;> cases kind <;> rfl

end Registry

end FieldRules
