import FieldRules.Proofs.Registry.Table
import Mathlib.Data.List.Induction
import Mathlib.Data.Set.Card

/-!
This file follows a registry through a history of registrations and removals. At each point of the
history the registry is a finite map, and the last operation on a pair alone says what the pair has.
-/

namespace FieldRules

/-- A rule with a known keyword has a pair with the kind. -/
def Rule.pair? (rule : Rule) (kind : Kind) : Option (Keyword × Kind) :=
  (Keyword.ofText? rule.keyword).map fun keyword => (keyword, kind)

namespace Registry

/-! ### Operations -/

/-- An operation changes the row of one pair. -/
inductive Operation where
  | register (keyword : Keyword) (kind : Kind) (resolver : Resolver)
  | unregister (keyword : Keyword) (kind : Kind)

namespace Operation

def pair : Operation → Keyword × Kind
  | register keyword kind _ => (keyword, kind)
  | unregister keyword kind => (keyword, kind)

/-- The operation leaves this resolver for its pair. -/
def left? : Operation → Option Resolver
  | register _ _ resolver => some resolver
  | unregister _ _ => none

/-- The answer of an operation comes first, and the registry after it second. -/
def run (registry : Registry) : Operation → Option Resolver × Registry
  | register keyword kind resolver => registry.register keyword kind resolver
  | unregister keyword kind => registry.unregister keyword kind

theorem resolver?_run (registry : Registry) (operation : Operation) (keyword : Keyword)
    (kind : Kind) :
    (operation.run registry).2.resolver? keyword kind =
      if operation.pair = (keyword, kind) then operation.left?
      else registry.resolver? keyword kind := by
  cases operation with
  | register ownKeyword ownKind resolver =>
      simp only [run, Registry.register, resolver?_put, pair, left?, eq_comm]
  | unregister ownKeyword ownKind =>
      simp only [run, Registry.unregister, resolver?_drop, pair, left?, eq_comm]

end Operation

/-! ### Histories -/

section

variable (start : Registry) (history : List Operation)

/-- The operations are run one after the other. -/
def after : Registry :=
  history.foldl (fun registry operation => (operation.run registry).2) start

/-- The last operation on the pair. -/
def last? (pair : Keyword × Kind) : Option Operation :=
  history.findRev? fun operation => operation.pair == pair

/-- The last operation on a pair decides its resolver. -/
def held? (pair : Keyword × Kind) : Option Resolver :=
  match last? history pair with
  | some operation => operation.left?
  | none => start.resolver? pair.1 pair.2

variable {start history}

theorem held?_concat (operation : Operation) (pair : Keyword × Kind) :
    start.held? (history ++ [operation]) pair =
      if operation.pair = pair then operation.left? else start.held? history pair := by
  rw [held?, last?, List.findRev?_eq_find?_reverse, List.reverse_concat, List.find?_cons]
  by_cases own : operation.pair = pair
  · rw [beq_iff_eq.2 own, if_pos own]
  · rw [beq_false_of_ne own, if_neg own, held?, last?, List.findRev?_eq_find?_reverse]

/-- The table has the resolvers that the history left. -/
theorem resolver?_after (pair : Keyword × Kind) :
    (start.after history).resolver? pair.1 pair.2 = start.held? history pair := by
  -- The induction takes the last operation away, which alone counts for its own pair.
  induction history using List.reverseRecOn with
  | nil => rfl
  | append_singleton history operation inductionHypothesis =>
      rw [held?_concat, after, List.foldl_concat, ← after, Operation.resolver?_run,
        inductionHypothesis]

end

/-! ### Listings -/

/-- The entries are those of the pairs, sorted and without repetition. -/
structure IsListing (pairs : Set (Keyword × Kind)) (entries : List String) : Prop where
  sorted : entries.Pairwise fun first second => first ≤ second
  distinct : entries.Nodup
  complete : ∀ text, text ∈ entries ↔ ∃ pair ∈ pairs, text = entry pair

theorem entry_injective : Function.Injective entry := by
  -- Neither part of an entry has a colon, so the colon shows where the parts meet.
  have colonless (keyword : Keyword) : ':' ∉ keyword.text.toList := by cases keyword <;> decide
  have colonlessKind (kind : Kind) : ':' ∉ kind.display.toList := by cases kind <;> decide
  rintro ⟨keyword, kind⟩ ⟨otherKeyword, otherKind⟩ same
  have letters : keyword.text.toList ++ ':' :: kind.display.toList =
      otherKeyword.text.toList ++ ':' :: otherKind.display.toList := by
    simpa [entry] using congrArg String.toList same
  obtain ⟨sameText, -, sameDisplay⟩ :=
    (List.append_cons_inj_of_notMem (colonless keyword) (colonlessKind kind)).1 letters
  have sameKeyword : keyword = otherKeyword := by
    have texts := String.ext sameText
    revert texts
    cases keyword <;> cases otherKeyword <;> decide
  have sameKind : kind = otherKind := by
    have displays := String.ext sameDisplay
    revert displays
    cases kind <;> cases otherKind <;> decide
  rw [sameKeyword, sameKind]

variable (registry : Registry)

theorem isListing_entries : IsListing {pair | pair ∈ registry.pairs} registry.entries := by
  have moved := List.mergeSort_perm (registry.pairs.map entry) fun first second => first ≤ second
  refine ⟨?_, moved.nodup_iff.2 (registry.distinct.map entry_injective), fun text => ?_⟩
  · refine (List.pairwise_mergeSort ?_ ?_ _).imp of_decide_eq_true
    · intro first second third lower upper
      exact decide_eq_true (String.le_trans (of_decide_eq_true lower) (of_decide_eq_true upper))
    · intro first second
      simpa using String.le_total first second
  · rw [entries, moved.mem_iff, List.mem_map]
    exact exists_congr fun pair => and_congr_right fun _ => eq_comm

/-- Each row gives one entry. -/
theorem length_entries : registry.entries.length = registry.size := by
  rw [entries, List.length_mergeSort, List.length_map, length_pairs]

/-- No pair is counted twice. -/
theorem ncard_pairs : {pair | pair ∈ registry.pairs}.ncard = registry.size := by
  have distinct : registry.pairs.Nodup := registry.distinct
  rw [← List.coe_toFinset, Set.ncard_coe_finset, List.toFinset_card_of_nodup distinct, length_pairs]

/-! ### Observers -/

/-- All that a registry tells follows from the resolvers that the pairs have. -/
structure Shows (held? : Keyword × Kind → Option Resolver) : Prop where
  supports : ∀ keyword kind, registry.supports keyword kind = (held? (keyword, kind)).isSome
  registers : ∀ keyword kind resolver,
    (registry.register keyword kind resolver).1 = held? (keyword, kind)
  unregisters : ∀ keyword kind, (registry.unregister keyword kind).1 = held? (keyword, kind)
  size : registry.size = {pair | (held? pair).isSome = true}.ncard
  resolves : ∀ record field rule keyword resolver, Keyword.ofText? rule.keyword = some keyword →
    held? (keyword, field.kind) = some resolver →
    rule.argument.isSome = keyword.takesArgument →
    registry.resolve record field rule = resolver ⟨record, field, keyword, rule⟩
  refuses : ∀ record field rule keyword, Keyword.ofText? rule.keyword = some keyword →
    held? (keyword, field.kind) = none →
    registry.resolve record field rule =
      .error ⟨field.name, .unsupportedKind rule.keyword field.kind⟩
  lists : ∃ entries, IsListing {pair | (held? pair).isSome = true} entries ∧
    entries.length = registry.size ∧
    registry.display =
      "RuleRegistry \x7b rules: [" ++ ", ".intercalate (entries.map Text.quoted) ++ "] \x7d"

variable {registry}

theorem resolve_of_resolver? {record : Record} {field : Field} {rule : Rule} {keyword : Keyword}
    {resolver : Resolver} (spelled : Keyword.ofText? rule.keyword = some keyword)
    (known : registry.resolver? keyword field.kind = some resolver)
    (fits : rule.argument.isSome = keyword.takesArgument) :
    registry.resolve record field rule = resolver ⟨record, field, keyword, rule⟩ := by
  rw [resolve, spelled]
  dsimp only
  rw [resolveKeyword]
  dsimp only [Declaration.argument]
  rw [known]
  cases takes : keyword.takesArgument <;> cases given : rule.argument <;> simp_all

theorem resolve_of_unsupported {record : Record} {field : Field} {rule : Rule} {keyword : Keyword}
    (spelled : Keyword.ofText? rule.keyword = some keyword)
    (absent : registry.resolver? keyword field.kind = none) :
    registry.resolve record field rule =
      .error ⟨field.name, .unsupportedKind rule.keyword field.kind⟩ := by
  rw [resolve, spelled]
  dsimp only
  rw [resolveKeyword]
  dsimp only
  rw [absent]
  rfl

/-- A registry shows the resolvers of its table. -/
theorem shows_of_resolver? {held? : Keyword × Kind → Option Resolver}
    (held : ∀ pair : Keyword × Kind, registry.resolver? pair.1 pair.2 = held? pair) :
    registry.Shows held? := by
  have supported : {pair | (held? pair).isSome = true} = {pair | pair ∈ registry.pairs} := by
    ext pair
    change (held? pair).isSome = true ↔ (pair.1, pair.2) ∈ registry.pairs
    rw [mem_pairs_iff, held]
  refine ⟨fun keyword kind => ?_, fun keyword kind _ => held (keyword, kind),
    fun keyword kind => held (keyword, kind), ?_,
    fun record field rule keyword resolver spelled known => ?_,
    fun record field rule keyword spelled absent => ?_,
    ⟨registry.entries, ?_, registry.length_entries, rfl⟩⟩
  · rw [supports_eq, ← held]
  · rw [supported, ncard_pairs]
  · exact resolve_of_resolver? spelled ((held _).trans known)
  · exact resolve_of_unsupported spelled ((held _).trans absent)
  · rw [supported]
    exact registry.isListing_entries

/-- A rule resolves by the resolver of its pair alone. -/
theorem resolve_congr {other : Registry} {record : Record} {field : Field} {rule : Rule}
    (same : ∀ pair ∈ rule.pair? field.kind,
      registry.resolver? pair.1 pair.2 = other.resolver? pair.1 pair.2) :
    registry.resolve record field rule = other.resolve record field rule := by
  rw [resolve, resolve]
  cases spelled : Keyword.ofText? rule.keyword with
  | none => rfl
  | some keyword =>
      have own : registry.resolver? keyword field.kind = other.resolver? keyword field.kind :=
        same (keyword, field.kind) (by rw [Rule.pair?, spelled]; rfl)
      dsimp only
      rw [resolveKeyword, resolveKeyword]
      dsimp only
      rw [own]

end Registry

/-- A registry is a finite map at each point of a history. -/
theorem registry_is_map_over_histories (start : Registry) (history : List Registry.Operation) :
    (start.after history).Shows (start.held? history) ∧
    (∀ (other : Registry) (otherHistory : List Registry.Operation) (record : Record)
      (field : Field) (rule : Rule),
      (∀ pair ∈ rule.pair? field.kind, start.held? history pair = other.held? otherHistory pair) →
      (start.after history).resolve record field rule =
        (other.after otherHistory).resolve record field rule) ∧
    ∀ (operation : Registry.Operation) (record : Record) (field : Field) (rule : Rule),
      rule.pair? field.kind ≠ some operation.pair →
      (operation.run (start.after history)).2.resolve record field rule =
        (start.after history).resolve record field rule := by
  refine ⟨Registry.shows_of_resolver? Registry.resolver?_after,
    fun other otherHistory record field rule same => ?_,
    fun operation record field rule other => ?_⟩
  · refine Registry.resolve_congr fun pair own => ?_
    rw [Registry.resolver?_after, Registry.resolver?_after, same pair own]
  · refine Registry.resolve_congr fun pair own => ?_
    have apart : operation.pair ≠ pair := fun this => other (this ▸ own)
    rw [Registry.Operation.resolver?_run, if_neg apart]

end FieldRules
