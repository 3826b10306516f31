import FieldRules.Check

/-!
This file shows that a store of patterns cannot be seen. A store may lose entries at any time, and
the lookups of several users may overlap, but each entry is what its text compiles to, so a lookup
gives what a compilation gives.
-/

namespace FieldRules

/-- A compiled pattern keeps its text. -/
theorem Pattern.text_of_compile? {text : String} {pattern : Pattern}
    (compiled : Pattern.compile? text = some pattern) : pattern.text = text := by
  simp only [Pattern.compile?, Option.bind_eq_bind, Option.bind_eq_some_iff] at compiled
  obtain ⟨expression, -, ⟨regex, rest⟩, -, kept⟩ := compiled
  dsimp only at kept
  split at kept
  · cases kept
    rfl
  · cases kept

namespace Pattern.Store

variable {State : Type}

/-- A store finds only what was inserted, and it may lose entries. -/
structure Lawful (store : Store State) (Holds : State → String → Pattern → Prop)
    (Loses : State → State → Prop) : Prop where
  start : ∀ text pattern, ¬Holds store.start text pattern
  find : ∀ state text pattern, store.find? state text = some pattern → Holds state text pattern
  insert : ∀ state text pattern other found,
    Holds (store.insert state text pattern) other found →
      (other = text ∧ found = pattern) ∨ Holds state other found
  loss : ∀ state kept text pattern, Loses state kept →
    Holds kept text pattern → Holds state text pattern

/-- The states to which users bring a store, with their pending insertions. -/
inductive Reached (store : Store State) (Loses : State → State → Prop) :
    State → List (String × Pattern) → Prop
  | start : Reached store Loses store.start []
  | miss {state : State} {pending : List (String × Pattern)} {text : String} {pattern : Pattern}
      (reached : Reached store Loses state pending) (missed : store.find? state text = none)
      (compiled : Pattern.compile? text = some pattern) :
      Reached store Loses state ((text, pattern) :: pending)
  | insertion {state : State} {before after : List (String × Pattern)} {text : String}
      {pattern : Pattern}
      (reached : Reached store Loses state (before ++ (text, pattern) :: after)) :
      Reached store Loses (store.insert state text pattern) (before ++ after)
  | loss {state kept : State} {pending : List (String × Pattern)}
      (reached : Reached store Loses state pending) (lost : Loses state kept) :
      Reached store Loses kept pending

section

variable {store : Store State} {Holds : State → String → Pattern → Prop}
  {Loses : State → State → Prop} {state : State} {pending : List (String × Pattern)}

/-- A whole lookup leads to a state that can be reached. -/
theorem Reached.lookup (reached : store.Reached Loses state pending) (text : String) :
    store.Reached Loses (store.compile? state text).2 pending := by
  unfold compile?
  split
  · exact reached
  · next missed =>
      split
      · next pattern compiled =>
          have missing := Reached.miss reached missed compiled
          rw [← List.nil_append (_ :: pending)] at missing
          exact .insertion missing
      · exact reached

/-- The entries of a state are the compiled forms of their texts. -/
def Sound (Holds : State → String → Pattern → Prop) (state : State) : Prop :=
  ∀ text pattern, Holds state text pattern → Pattern.compile? text = some pattern

theorem Sound.insert (lawful : store.Lawful Holds Loses) (sound : Sound Holds state)
    {text : String} {pattern : Pattern} (compiled : Pattern.compile? text = some pattern) :
    Sound Holds (store.insert state text pattern) := by
  intro other found held
  rcases lawful.insert _ _ _ _ _ held with ⟨rfl, rfl⟩ | earlier
  · exact compiled
  · exact sound other found earlier

/-- Each state that can be reached is sound, with its pending patterns. -/
theorem Reached.sound (lawful : store.Lawful Holds Loses)
    (reached : store.Reached Loses state pending) :
    Sound Holds state ∧ ∀ entry ∈ pending, Pattern.compile? entry.1 = some entry.2 := by
  induction reached with
  | start => exact ⟨fun text pattern held => absurd held (lawful.start text pattern), by simp⟩
  | miss _ _ compiled inductionHypothesis =>
      exact ⟨inductionHypothesis.1, List.forall_mem_cons.2 ⟨compiled, inductionHypothesis.2⟩⟩
  | @insertion _ before after text pattern _ inductionHypothesis =>
      obtain ⟨sound, waiting⟩ := inductionHypothesis
      have compiled : Pattern.compile? text = some pattern := waiting (text, pattern) (by simp)
      refine ⟨sound.insert lawful compiled, fun entry member => waiting entry ?_⟩
      rcases List.mem_append.1 member with early | late
      · exact List.mem_append_left _ early
      · exact List.mem_append_right _ (List.mem_cons_of_mem _ late)
  | loss _ lost inductionHypothesis =>
      refine ⟨fun text pattern held => ?_, inductionHypothesis.2⟩
      exact inductionHypothesis.1 text pattern (lawful.loss _ _ _ _ lost held)

/-- A lookup gives what a compilation gives. -/
theorem Reached.compile?_eq (lawful : store.Lawful Holds Loses)
    (reached : store.Reached Loses state pending) (text : String) :
    (store.compile? state text).1 = Pattern.compile? text := by
  unfold compile?
  split
  · next pattern found =>
      exact ((reached.sound lawful).1 text pattern (lawful.find _ _ _ found)).symm
  · split
    · next compiled => exact compiled.symm
    · next uncompiled => exact uncompiled.symm

end

end Pattern.Store

end FieldRules
