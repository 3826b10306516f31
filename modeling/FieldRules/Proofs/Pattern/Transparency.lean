import FieldRules.Plan.Execution
import FieldRules.Proofs.Pattern.Cache
import FieldRules.Proofs.Plan.Direct
import FieldRules.Proofs.Registry.RuleTable

/-!
This file shows that the users of a store of patterns do not see its state. They compile texts,
check inputs and resolve rules, and each of them gets what it would get from a store that has just
started.
-/

namespace FieldRules

open Pattern (Store)

/-- A use of a store compiles a text, checks an input or resolves a declaration. -/
inductive Use where
  | compile (text : String)
  | satisfy (field input text : String)
  | resolve (declaration : Declaration)

/-- The state that a use leaves behind. -/
def Use.after {State : Type} (store : Store State) (state : State) : Use → State
  | .compile text => (store.compile? state text).2
  | .satisfy field input text => (Check.satisfiesIn store state field input text).2
  | .resolve declaration => (Resolver.patternIn store state declaration).2

/-- Each resolver of the registry is a built-in one, which may stand in another place. -/
def Registry.DrawsOnBuiltin (registry : Registry) : Prop :=
  ∀ keyword kind resolver, registry.resolver? keyword kind = some resolver →
    ∃ origin originKind, Registry.builtin.resolver? origin originKind = some resolver

section

variable {State : Type} {store : Store State} {state : State} {field input text : String}
  {declaration : Declaration}

theorem Check.satisfiesIn_snd :
    (Check.satisfiesIn store state field input text).2 = (store.compile? state text).2 := by
  rw [Check.satisfiesIn]
  rcases store.compile? state text with ⟨_ | pattern, last⟩ <;> rfl

theorem Resolver.patternIn_snd :
    (Resolver.patternIn store state declaration).2 =
      (store.compile? state declaration.argumentText).2 := by
  rw [Resolver.patternIn]
  rcases store.compile? state declaration.argumentText with ⟨_ | pattern, last⟩ <;> rfl

/-- The outcome of a check for a pattern depends on the answer to the lookup only. -/
theorem Check.satisfiesIn_fst_congr {other : State}
    (same : (store.compile? state text).1 = (store.compile? other text).1) :
    (Check.satisfiesIn store state field input text).1 =
      (Check.satisfiesIn store other field input text).1 := by
  rw [Check.satisfiesIn, Check.satisfiesIn]
  generalize store.compile? state text = answer at same ⊢
  generalize store.compile? other text = again at same ⊢
  obtain ⟨answer, last⟩ := answer
  obtain ⟨again, kept⟩ := again
  cases same
  cases answer <;> rfl

theorem Check.satisfiesIn_fst_of_some {pattern : Pattern}
    (found : (store.compile? state text).1 = some pattern) :
    (Check.satisfiesIn store state field input text).1 =
      Check.matchesPattern field input pattern := by
  rw [Check.satisfiesIn]
  generalize store.compile? state text = answer at found ⊢
  obtain ⟨answer, last⟩ := answer
  cases found
  rfl

theorem Resolver.patternIn_fst
    (same : (store.compile? state declaration.argumentText).1 =
      Pattern.compile? declaration.argumentText) :
    (Resolver.patternIn store state declaration).1 = Resolver.pattern declaration := by
  rw [Resolver.patternIn, Resolver.pattern, Resolver.patternOver, ← same]
  rcases store.compile? state declaration.argumentText with ⟨_ | pattern, last⟩ <;> rfl

end

/-- A failed match and a text that is no pattern have different messages. -/
theorem Check.matchesPattern_ne_invalidPattern (field input other text : String)
    (pattern : Pattern) :
    Check.matchesPattern field input pattern ≠ some (Check.invalidPattern other text) := by
  rw [Check.matchesPattern, Check.outcome]
  split
  · simp
  · intro same
    have texts := congrArg Message.text (Option.some.inj same)
    have first := congrArg (fun text => text.toList.head?) texts
    simp [Check.invalidPattern] at first

/-- The text of a resolved pattern compiles to the pattern again. -/
theorem Registry.compile?_text_of_resolve {registry : Registry} (draws : registry.DrawsOnBuiltin)
    {record : Record} {field : Field} {rule : Rule} {pattern : Pattern}
    (resolved : registry.resolve record field rule = .ok (.check (.pattern pattern))) :
    Pattern.compile? pattern.text = some pattern := by
  obtain ⟨keyword, resolver, -, known, -, resolved⟩ := Registry.resolve_ok_iff.1 resolved
  obtain ⟨origin, kind, builtin⟩ := draws _ _ _ known
  have mapped {Value : Type} {bound : Except RuleFault Value} {check : Value → FieldCheck}
      (other : ∀ value, check value ≠ .pattern pattern) :
      bound.map (fun value => Resolution.check (check value)) ≠
        .ok (.check (.pattern pattern)) := by
    cases bound <;> simp [Except.map, other]
  rw [Registry.builtin, Registry.resolver?_builtinOver] at builtin
  split at builtin <;> cases builtin
  case h_5 =>
    obtain ⟨other, compiled, same⟩ :=
      Resolver.patternOver_ok_iff.1 (Resolver.blaming_ok_iff.1 resolved)
    cases same
    rwa [Pattern.text_of_compile? compiled]
  all_goals
    first
    | cases resolved
    | exact absurd (Resolver.blaming_ok_iff.1 resolved) (mapped (by simp))

/-- Each use of a store leads to a state that can be reached. -/
theorem Use.after_reached {State : Type} {store : Store State} {Loses : State → State → Prop}
    {state : State} {pending : List (String × Pattern)}
    (reached : store.Reached Loses state pending) (use : Use) :
    store.Reached Loses (use.after store state) pending := by
  cases use with
  | compile text => exact reached.lookup text
  | satisfy field input text =>
      rw [Use.after, Check.satisfiesIn_snd]
      exact reached.lookup text
  | resolve declaration =>
      rw [Use.after, Resolver.patternIn_snd]
      exact reached.lookup _

/-- A store of compiled patterns cannot be seen in any state that users reach. -/
theorem stores_are_transparent {State : Type} {store : Store State}
    {Holds : State → String → Pattern → Prop} {Loses : State → State → Prop}
    (lawful : store.Lawful Holds Loses) {state : State} {pending : List (String × Pattern)}
    (reached : store.Reached Loses state pending) :
    (∀ use : Use, store.Reached Loses (use.after store state) pending) ∧
    (∀ text pattern, Holds state text pattern → Pattern.compile? text = some pattern) ∧
    (∀ text, Pattern.compile? text = none → ∀ pattern, ¬Holds state text pattern) ∧
    (∀ text, (store.compile? state text).1 = Pattern.compile? text ∧
      ∀ pattern, (store.compile? state text).1 = some pattern → pattern.text = text) ∧
    (∀ field input text, (Check.satisfiesIn store state field input text).1 =
      (Check.satisfiesIn store store.start field input text).1) ∧
    (∀ declaration,
      (Resolver.patternIn store state declaration).1 = Resolver.pattern declaration) ∧
    ∀ registry : Registry, registry.DrawsOnBuiltin → ∀ record field rule pattern,
      registry.resolve record field rule = .ok (.check (.pattern pattern)) →
      ∀ data input, data.member? field.name = some (.text input) →
        (Check.satisfiesIn store state field.name input pattern.text).1 =
          (FieldCheck.pattern pattern).run (field.site rule) data ∧
        (Check.satisfiesIn store state field.name input pattern.text).1 ≠
          some (Check.invalidPattern field.name pattern.text) := by
  have sound := (reached.sound lawful).1
  have fresh := reached.compile?_eq lawful
  have begun : store.Reached Loses store.start [] := .start
  refine ⟨Use.after_reached reached, sound, fun text uncompiled pattern held => ?_,
    fun text => ⟨fresh text, fun pattern found => ?_⟩, fun field input text => ?_,
    fun declaration => Resolver.patternIn_fst (fresh _), ?_⟩
  · cases uncompiled.symm.trans (sound text pattern held)
  · exact Pattern.text_of_compile? ((fresh text).symm.trans found)
  · exact Check.satisfiesIn_fst_congr ((fresh text).trans (begun.compile?_eq lawful text).symm)
  · intro registry draws record field rule pattern resolved data input present
    have compiled := Registry.compile?_text_of_resolve draws resolved
    have outcome : (Check.satisfiesIn store state field.name input pattern.text).1 =
        Check.matchesPattern field.name input pattern :=
      Check.satisfiesIn_fst_of_some ((fresh _).trans compiled)
    rw [outcome]
    refine ⟨?_, Check.matchesPattern_ne_invalidPattern _ _ _ _ _⟩
    simp only [FieldCheck.run, Field.site, Data.fieldValue, present, checkRead, Data.textIn]

/-- A slug has small letters of ASCII only. -/
def slugField : Field :=
  ⟨"slug", .text, "", "regex(^[a-z]+$)"⟩

def slugRule : Rule :=
  ⟨"regex", some "^[a-z]+$"⟩

def slugPattern : Pattern :=
  ⟨"^[a-z]+$", .seq (.look .textStart)
    (.seq (.repeated (.one (.range 'a' 'z')) 1 none) (.seq (.look .textEnd) .empty))⟩

/-- The cache has the pattern already while another user is about to insert it again. -/
theorem reached_slugPattern : Pattern.Cache.store.Reached Pattern.Cache.Loses
    [("^[a-z]+$", slugPattern)] [("^[a-z]+$", slugPattern)] := by
  have first : Pattern.Cache.store.Reached Pattern.Cache.Loses []
      [("^[a-z]+$", slugPattern)] := .miss .start rfl rfl
  have second : Pattern.Cache.store.Reached Pattern.Cache.Loses []
      ([] ++ ("^[a-z]+$", slugPattern) :: [("^[a-z]+$", slugPattern)]) := .miss first rfl rfl
  exact .insertion second

theorem stores_are_transparent_of_slugPattern :
    Registry.builtin.DrawsOnBuiltin ∧
    Registry.builtin.resolve ⟨"Page", "", [slugField]⟩ slugField slugRule =
      .ok (.check (.pattern slugPattern)) ∧
    (Check.satisfiesIn Pattern.Cache.store [("^[a-z]+$", slugPattern)] "slug" "Ab1" "^[a-z]+$").1 =
      (FieldCheck.pattern slugPattern).run (slugField.site slugRule)
        (.table [("slug", .text "Ab1")]) := by
  have draws : Registry.builtin.DrawsOnBuiltin := fun keyword kind _ known => ⟨keyword, kind, known⟩
  have resolved : Registry.builtin.resolve ⟨"Page", "", [slugField]⟩ slugField slugRule =
      .ok (.check (.pattern slugPattern)) := rfl
  obtain ⟨-, -, -, -, -, -, checks⟩ :=
    stores_are_transparent Pattern.Cache.lawful reached_slugPattern
  exact ⟨draws, resolved, (checks _ draws _ _ _ _ resolved _ "Ab1" rfl).1⟩

end FieldRules
