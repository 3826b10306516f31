import FieldRules.Plan.Compiler
import FieldRules.Proofs.Registry.RuleTable

/-!
This file takes rules out of registries. A registry without some pairs of a keyword and a kind
resolves the rules that are left as before, and it knows no other rule.
-/

namespace FieldRules

namespace Registry

/-- The resolvers of the pairs are unregistered, one after the other. -/
def without (registry : Registry) (pairs : List (Keyword × Kind)) : Registry :=
  pairs.foldl (fun registry pair => (registry.unregister pair.1 pair.2).2) registry

/-- The registry has a resolver for the keyword of the rule on fields of the kind. -/
def covers (registry : Registry) (rule : Rule) (kind : Kind) : Bool :=
  (Keyword.ofText? rule.keyword).any fun keyword => registry.supports keyword kind

/-- Whatever the registry resolves is a rule of the table. -/
def KeepsToTable (registry : Registry) : Prop :=
  ∀ record field rule resolution, registry.resolve record field rule = .ok resolution →
    RuleTable record field rule resolution

section

variable {registry : Registry} {pairs : List (Keyword × Kind)}

theorem resolver?_without (keyword : Keyword) (kind : Kind) :
    (registry.without pairs).resolver? keyword kind =
      if (keyword, kind) ∈ pairs then none else registry.resolver? keyword kind := by
  induction pairs generalizing registry with
  | nil => rfl
  | cons pair pairs inductionHypothesis =>
      have first : registry.without (pair :: pairs) =
          (registry.unregister pair.1 pair.2).2.without pairs := rfl
      rw [first, inductionHypothesis]
      by_cases later : (keyword, kind) ∈ pairs
      · simp [later]
      · by_cases same : (keyword, kind) = pair
        · simp [← same, unregister, resolver?_drop]
        · simp [later, same, unregister, resolver?_drop]

theorem without_append (further : List (Keyword × Kind)) :
    registry.without (pairs ++ further) = (registry.without pairs).without further :=
  List.foldl_append

/-- A resolver that is left is the one that was there. -/
theorem resolver?_of_without {keyword : Keyword} {kind : Kind} {resolver : Resolver}
    (left : (registry.without pairs).resolver? keyword kind = some resolver) :
    registry.resolver? keyword kind = some resolver := by
  rw [resolver?_without] at left
  split at left
  · cases left
  · exact left

variable {record : Record} {field : Field} {rule : Rule} {resolution : Resolution}

theorem covers_of_resolve (resolved : registry.resolve record field rule = .ok resolution) :
    registry.covers rule field.kind = true := by
  obtain ⟨keyword, resolver, spelled, known, -, -⟩ := resolve_ok_iff.1 resolved
  rw [covers, spelled, Option.any_some, supports_eq, known]
  rfl

/-- A rule that resolves without the pairs resolves in the same way with them. -/
theorem resolve_of_without
    (resolved : (registry.without pairs).resolve record field rule = .ok resolution) :
    registry.resolve record field rule = .ok resolution := by
  obtain ⟨keyword, resolver, spelled, left, takes, answer⟩ := resolve_ok_iff.1 resolved
  exact resolve_ok_iff.2 ⟨keyword, resolver, spelled, resolver?_of_without left, takes, answer⟩

/-- A rule whose pair is left resolves as it did. -/
theorem resolve_without_of_covers (resolved : registry.resolve record field rule = .ok resolution)
    (left : (registry.without pairs).covers rule field.kind = true) :
    (registry.without pairs).resolve record field rule = .ok resolution := by
  obtain ⟨keyword, resolver, spelled, known, takes, answer⟩ := resolve_ok_iff.1 resolved
  rw [covers, spelled, Option.any_some, supports_eq] at left
  obtain ⟨other, kept⟩ := Option.isSome_iff_exists.1 left
  have same := resolver?_of_without kept
  rw [known] at same
  cases same
  exact resolve_ok_iff.2 ⟨keyword, resolver, spelled, kept, takes, answer⟩

/-- A rule whose pair is lost is not supported any more. -/
theorem resolve_without_of_not_covers
    (resolved : registry.resolve record field rule = .ok resolution)
    (lost : (registry.without pairs).covers rule field.kind = false) :
    (registry.without pairs).resolve record field rule =
      .error ⟨field.name, .unsupportedKind rule.keyword field.kind⟩ := by
  obtain ⟨keyword, resolver, spelled, -, -, -⟩ := resolve_ok_iff.1 resolved
  rw [covers, spelled, Option.any_some, supports_eq, Option.isSome_eq_false_iff,
    Option.isNone_iff_eq_none] at lost
  rw [resolve, spelled]
  dsimp only
  rw [resolveKeyword, lost]
  rfl

theorem keepsToTable_builtin : builtin.KeepsToTable :=
  fun _ _ _ _ => ruleTable_of_resolve

theorem keepsToTable_builtin_without (pairs : List (Keyword × Kind)) :
    (builtin.without pairs).KeepsToTable :=
  fun _ _ _ _ resolved => ruleTable_of_resolve (resolve_of_without resolved)

end

end Registry

/-- The compiler with the built-in rules that are left without the removed pairs. -/
def Compiler.lacking (schema : Schema) (nesting : Nesting) (removed : List (Keyword × Kind)) :
    Compiler :=
  ⟨schema, Registry.builtin.without removed, nesting⟩

end FieldRules
