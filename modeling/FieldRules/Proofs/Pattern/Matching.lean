import FieldRules.Pattern.Meaning
import Mathlib.Data.Nat.Notation

/-!
This file says which parts of a text a regular expression matches, and shows that the search finds
one if there is one. A regular expression leads from a position of the text to others, and the
search moves whole sets of positions, each as the binary digits of a number.
-/

namespace FieldRules.Pattern

/-- So many steps of the relation lead from the first position to the last. -/
inductive Steps (relation : Nat → Nat → Prop) : Nat → Nat → Nat → Prop
  | none (place : Nat) : Steps relation 0 place place
  | more {count first next last : Nat} (step : relation first next)
      (rest : Steps relation count next last) : Steps relation (count + 1) first last

/-- A match may begin at the first position and end at the second. -/
def Regex.Leads (text : List Char) : Regex → Nat → Nat → Prop
  | .empty, first, last => last = first
  | .one set, first, last => last = first + 1 ∧ ∃ c, text[first]? = some c ∧ set.contains c = true
  | .look assertion, first, last =>
      last = first ∧ assertion.holds (text.take first).getLast? text[first]? = true
  | .seq front back, first, last => ∃ next, front.Leads text first next ∧ back.Leads text next last
  | .alt left right, first, last => left.Leads text first last ∨ right.Leads text first last
  | .repeated inner least most, first, last =>
      ∃ further, (∀ greatest, most = some greatest → further ≤ greatest - least) ∧
        Steps (inner.Leads text) (least + further) first last

/-! ### Steps -/

section

variable {relation : Nat → Nat → Prop} {count other first last : Nat}

theorem steps_zero_iff : Steps relation 0 first last ↔ last = first := by
  constructor
  · rintro ⟨⟩
    rfl
  · rintro rfl
    exact .none _

theorem steps_succ_iff : Steps relation (count + 1) first last ↔
    ∃ next, relation first next ∧ Steps relation count next last := by
  constructor
  · rintro ⟨⟩
    exact ⟨_, ‹_›, ‹_›⟩
  · rintro ⟨next, step, rest⟩
    exact .more step rest

theorem steps_add_iff : Steps relation (count + other) first last ↔
    ∃ next, Steps relation count first next ∧ Steps relation other next last := by
  induction count generalizing first with
  | zero => simp [steps_zero_iff]
  | succ count inductionHypothesis =>
      rw [Nat.add_right_comm, steps_succ_iff]
      simp only [inductionHypothesis, steps_succ_iff]
      constructor
      · rintro ⟨next, step, middle, front, back⟩
        exact ⟨middle, ⟨next, step, front⟩, back⟩
      · rintro ⟨middle, ⟨next, step, front⟩, back⟩
        exact ⟨next, step, middle, front, back⟩

/-- Steps that stay in place are left out, so there are no more steps than positions. -/
theorem Steps.shorten (forward : ∀ first last, relation first last → first ≤ last)
    (steps : Steps relation count first last) :
    first ≤ last ∧ ∃ fewer ≤ count, fewer ≤ last - first ∧ Steps relation fewer first last := by
  induction steps with
  | none place => exact ⟨Nat.le_refl _, 0, Nat.le_refl _, Nat.zero_le _, .none place⟩
  | @more count first next last step rest inductionHypothesis =>
      obtain ⟨ahead, fewer, less, short, rest⟩ := inductionHypothesis
      have begins := forward first next step
      refine ⟨by omega, ?_⟩
      by_cases stays : first = next
      · subst stays
        exact ⟨fewer, by omega, short, rest⟩
      · exact ⟨fewer + 1, by omega, by omega, .more step rest⟩

end

/-! ### Binary digits -/

theorem testBit_maskOf (marks : List Bool) (place : Nat) :
    (maskOf marks).testBit place = true ↔ marks[place]? = some true := by
  induction marks generalizing place with
  | nil => simp [maskOf]
  | cons mark marks inductionHypothesis =>
      have half : (2 * maskOf marks + (if mark then 1 else 0)) / 2 = maskOf marks := by
        cases mark with
        | false => simp
        | true =>
            simp
            omega
      cases place with
      | zero => cases mark <;> simp [maskOf]
      | succ place =>
          rw [maskOf, Nat.testBit_add_one, half, inductionHypothesis, List.getElem?_cons_succ]

theorem testBit_sub_and (marks others place : Nat) :
    (marks - (marks &&& others)).testBit place =
      (marks.testBit place && !others.testBit place) := by
  induction place generalizing marks others with
  | zero =>
      have less : marks &&& others ≤ marks := Nat.and_le_left
      have odd : (marks &&& others) % 2 = 1 ↔ marks % 2 = 1 ∧ others % 2 = 1 :=
        Nat.and_mod_two_eq_one
      rw [Nat.testBit_zero, Nat.testBit_zero, Nat.testBit_zero, ← decide_not, ← Bool.decide_and,
        decide_eq_decide]
      omega
  | succ place inductionHypothesis =>
      have less : marks &&& others ≤ marks := Nat.and_le_left
      have odd : (marks &&& others) % 2 = 1 ↔ marks % 2 = 1 ∧ others % 2 = 1 :=
        Nat.and_mod_two_eq_one
      have half : (marks - (marks &&& others)) / 2 = marks / 2 - (marks / 2 &&& others / 2) := by
        rw [← Nat.and_div_two]
        omega
      rw [Nat.testBit_add_one, Nat.testBit_add_one, Nat.testBit_add_one, half, inductionHypothesis]

theorem getElem?_positions (before : Option Char) (text : List Char) (place : Nat) :
    (positions before text)[place]? =
      if place ≤ text.length then some ((text.take place).getLast?.or before, text[place]?)
      else none := by
  induction text generalizing before place with
  | nil => cases place <;> simp [positions]
  | cons c text inductionHypothesis =>
      cases place with
      | zero => simp [positions]
      | succ place =>
          rw [positions, List.getElem?_cons_succ, inductionHypothesis]
          simp [List.getLast?_cons]

/-! ### Sets of positions -/

/-- All marked positions lie in a text of the size. -/
def Within (size marks : Nat) : Prop :=
  ∀ place, marks.testBit place = true → place ≤ size

/-- A move takes a set of positions to all to which the relation leads. -/
structure Carries (size : Nat) (relation : Nat → Nat → Prop) (move : Nat → Nat) : Prop where
  forward : ∀ first last, relation first last → first ≤ last
  bounded : ∀ first last, first ≤ size → relation first last → last ≤ size
  exactly : ∀ starts, Within size starts → ∀ last,
    (move starts).testBit last = true ↔ ∃ first, starts.testBit first = true ∧ relation first last

section

variable {size : Nat} {relation second : Nat → Nat → Prop} {move other : Nat → Nat}

theorem Carries.within (carries : Carries size relation move) {starts : Nat}
    (inside : Within size starts) : Within size (move starts) := by
  intro last marked
  obtain ⟨first, start, leads⟩ := (carries.exactly starts inside last).1 marked
  exact carries.bounded first last (inside first start) leads

theorem carries_stay : Carries size (fun first last => last = first) id where
  forward := by omega
  bounded := by omega
  exactly := by simp

theorem carries_step {mask : Nat} {passes : Nat → Prop}
    (masked : ∀ place, mask.testBit place = true ↔ passes place)
    (inside : ∀ place, passes place → place < size) :
    Carries size (fun first last => last = first + 1 ∧ passes first)
      (fun starts => (starts &&& mask) <<< 1) where
  forward := by omega
  bounded := by
    rintro first last - ⟨rfl, passed⟩
    exact inside first passed
  exactly starts _ last := by
    simp only [Nat.testBit_shiftLeft, Nat.testBit_and, Bool.and_eq_true, decide_eq_true_eq, masked]
    constructor
    · rintro ⟨positive, start, passed⟩
      exact ⟨last - 1, start, by omega, passed⟩
    · rintro ⟨first, start, rfl, passed⟩
      exact ⟨by omega, start, passed⟩

theorem carries_hold {mask : Nat} {passes : Nat → Prop}
    (masked : ∀ place, place ≤ size → (mask.testBit place = true ↔ passes place)) :
    Carries size (fun first last => last = first ∧ passes first)
      (fun starts => starts &&& mask) where
  forward := by omega
  bounded := by omega
  exactly starts inside last := by
    rw [Nat.testBit_and, Bool.and_eq_true]
    constructor
    · rintro ⟨start, passed⟩
      exact ⟨last, start, rfl, (masked last (inside last start)).1 passed⟩
    · rintro ⟨first, start, rfl, passed⟩
      exact ⟨start, (masked last (inside last start)).2 passed⟩

theorem Carries.seq (front : Carries size relation move) (back : Carries size second other) :
    Carries size (fun first last => ∃ next, relation first next ∧ second next last)
      (fun starts => other (move starts)) where
  forward := by
    rintro first last ⟨next, begins, ends⟩
    exact Nat.le_trans (front.forward _ _ begins) (back.forward _ _ ends)
  bounded := by
    rintro first last inside ⟨next, begins, ends⟩
    exact back.bounded _ _ (front.bounded _ _ inside begins) ends
  exactly starts inside last := by
    simp only [back.exactly _ (front.within inside), front.exactly _ inside]
    constructor
    · rintro ⟨next, ⟨first, start, begins⟩, ends⟩
      exact ⟨first, start, next, begins, ends⟩
    · rintro ⟨first, start, next, begins, ends⟩
      exact ⟨next, ⟨first, start, begins⟩, ends⟩

theorem Carries.alt (left : Carries size relation move) (right : Carries size second other) :
    Carries size (fun first last => relation first last ∨ second first last)
      (fun starts => move starts ||| other starts) where
  forward first last := by
    rintro (leads | leads)
    · exact left.forward _ _ leads
    · exact right.forward _ _ leads
  bounded first last inside := by
    rintro (leads | leads)
    · exact left.bounded _ _ inside leads
    · exact right.bounded _ _ inside leads
  exactly starts inside last := by
    rw [Nat.testBit_or, Bool.or_eq_true, left.exactly _ inside, right.exactly _ inside]
    simp only [and_or_left, exists_or]

/-! ### Repetitions -/

theorem Carries.steps_bounded (carries : Carries size relation move) {count first last : Nat}
    (inside : first ≤ size) (steps : Steps relation count first last) : last ≤ size := by
  induction steps with
  | none => exact inside
  | more step _ inductionHypothesis => exact inductionHypothesis (carries.bounded _ _ inside step)

theorem Carries.times (carries : Carries size relation move) (count : Nat) {starts : Nat}
    (inside : Within size starts) (last : Nat) :
    (moveTimes move count starts).testBit last = true ↔
      ∃ first, starts.testBit first = true ∧ Steps relation count first last := by
  induction count generalizing starts with
  | zero => simp [moveTimes, steps_zero_iff]
  | succ count inductionHypothesis =>
      rw [moveTimes]
      split
      · next gone => simp [gone]
      · simp only [inductionHypothesis (carries.within inside), carries.exactly _ inside,
          steps_succ_iff]
        constructor
        · rintro ⟨next, ⟨first, start, step⟩, rest⟩
          exact ⟨first, start, next, step, rest⟩
        · rintro ⟨first, start, next, step, rest⟩
          exact ⟨next, ⟨first, start, step⟩, rest⟩

/-- In a search the positions of the frontier are reached, and only they may lead further. -/
structure Search (size : Nat) (relation : Nat → Nat → Prop) (reached frontier : Nat) : Prop where
  inside : Within size reached
  known : ∀ place, frontier.testBit place = true → reached.testBit place = true
  closed : ∀ first, reached.testBit first = true → frontier.testBit first = false →
    ∀ last, relation first last → reached.testBit last = true

/-- No steps lead further once the frontier is empty. -/
theorem Search.steps {reached : Nat} (search : Search size relation reached 0)
    {count first last : Nat} (start : reached.testBit first = true)
    (steps : Steps relation count first last) : reached.testBit last = true := by
  induction steps with
  | none => exact start
  | more step _ inductionHypothesis =>
      exact inductionHypothesis (search.closed _ start (Nat.zero_testBit _) _ step)

/-- A reached position leads to reached ones, or it stands on the frontier. -/
theorem Search.leads {reached frontier : Nat} (search : Search size relation reached frontier)
    {first last : Nat} (start : reached.testBit first = true) (step : relation first last) :
    reached.testBit last = true ∨
      ∃ origin, frontier.testBit origin = true ∧ relation origin last := by
  by_cases front : frontier.testBit first = true
  · exact .inr ⟨first, front, step⟩
  · exact .inl (search.closed first start (Bool.eq_false_iff.2 front) last step)

/-- The reached positions grow by those to which the frontier leads. -/
theorem Carries.reach_iff (carries : Carries size relation move) {reached frontier : Nat}
    (search : Search size relation reached frontier) (place : Nat) :
    (reached ||| (move frontier - (move frontier &&& reached))).testBit place = true ↔
      reached.testBit place = true ∨
        ∃ first, frontier.testBit first = true ∧ relation first place := by
  have inFront : Within size frontier := fun place marked =>
    search.inside place (search.known place marked)
  rw [← carries.exactly frontier inFront place, Nat.testBit_or, testBit_sub_and]
  cases reached.testBit place <;> simp

/-- The new positions are the next frontier. -/
theorem Carries.search_next (carries : Carries size relation move) {reached frontier : Nat}
    (search : Search size relation reached frontier) :
    Search size relation (reached ||| (move frontier - (move frontier &&& reached)))
      (move frontier - (move frontier &&& reached)) where
  inside place marked := by
    rcases (carries.reach_iff search place).1 marked with earlier | ⟨first, front, leads⟩
    · exact search.inside place earlier
    · exact carries.bounded first place (search.inside first (search.known first front)) leads
  known place marked := by rw [Nat.testBit_or, marked, Bool.or_true]
  closed first start settled last leads := by
    rw [Nat.testBit_or, settled, Bool.or_false] at start
    exact (carries.reach_iff search last).2 (search.leads start leads)

/-- Moving the new positions finds all that at most so many steps reach. -/
theorem Carries.upTo (carries : Carries size relation move) (count : Nat) {reached frontier : Nat}
    (search : Search size relation reached frontier) (last : Nat) :
    (moveUpTo move count reached frontier).testBit last = true ↔
      ∃ first, reached.testBit first = true ∧ ∃ fewer ≤ count, Steps relation fewer first last := by
  induction count generalizing reached frontier with
  | zero => simp [moveUpTo, steps_zero_iff]
  | succ count inductionHypothesis =>
      rw [moveUpTo]
      split
      · next gone =>
          subst gone
          constructor
          · exact fun marked => ⟨last, marked, 0, Nat.zero_le _, .none last⟩
          · rintro ⟨first, start, fewer, -, steps⟩
            exact search.steps start steps
      · have next := carries.search_next search
        have reach := carries.reach_iff search
        dsimp only
        rw [inductionHypothesis next]
        constructor
        · rintro ⟨first, start, fewer, less, steps⟩
          rcases (reach first).1 start with start | ⟨origin, front, leads⟩
          · exact ⟨first, start, fewer, by omega, steps⟩
          · exact ⟨origin, search.known origin front, fewer + 1, by omega, .more leads steps⟩
        · rintro ⟨first, start, fewer, less, steps⟩
          cases steps with
          | none => exact ⟨last, (reach last).2 (.inl start), 0, Nat.zero_le _, .none last⟩
          | @more fewer _ second _ step rest =>
              exact ⟨second, (reach second).2 (search.leads start step), fewer, by omega, rest⟩

/-- A repetition moves a least number of times and then while positions are new. -/
theorem Carries.repeated (carries : Carries size relation move) (least : Nat) (most : Option Nat)
    {further : Nat} (enough : further = match most with
      | none => size + 1
      | some most => min (most - least) (size + 1)) :
    Carries size
      (fun first last => ∃ further,
        (∀ greatest, most = some greatest → further ≤ greatest - least) ∧
          Steps relation (least + further) first last)
      (fun starts => moveUpTo move further (moveTimes move least starts)
        (moveTimes move least starts)) where
  forward first last := by
    rintro ⟨further, -, steps⟩
    exact (steps.shorten carries.forward).1
  bounded first last inside := by
    rintro ⟨further, -, steps⟩
    exact carries.steps_bounded inside steps
  exactly starts inside last := by
    have begun := carries.times least inside
    have begunInside : Within size (moveTimes move least starts) := by
      intro place marked
      obtain ⟨first, start, steps⟩ := (begun place).1 marked
      exact carries.steps_bounded (inside first start) steps
    have search : Search size relation (moveTimes move least starts) (moveTimes move least starts) :=
      ⟨begunInside, fun _ => id, fun first start settled => absurd start (by simp [settled])⟩
    rw [carries.upTo further search]
    simp only [begun]
    constructor
    · rintro ⟨next, ⟨first, start, front⟩, fewer, less, back⟩
      refine ⟨first, start, fewer, ?_, steps_add_iff.2 ⟨next, front, back⟩⟩
      rintro greatest rfl
      dsimp only at enough
      omega
    · rintro ⟨first, start, count, bound, steps⟩
      obtain ⟨next, front, back⟩ := steps_add_iff.1 steps
      obtain ⟨ahead, fewer, less, short, steps⟩ := back.shorten carries.forward
      have ended := carries.steps_bounded (inside first start) (steps_add_iff.2 ⟨next, front, back⟩)
      refine ⟨next, ⟨first, start, front⟩, fewer, ?_, steps⟩
      cases most with
      | none =>
          dsimp only at enough
          omega
      | some greatest =>
          have := bound greatest rfl
          dsimp only at enough
          omega

end

/-! ### Alternatives -/

theorem CharSet.contains_unionOf_iff {sets : List CharSet} {c : Char} :
    (CharSet.unionOf sets).contains c = true ↔ ∃ set ∈ sets, set.contains c = true := by
  rw [unionOf]
  induction sets with
  | nil => simp [contains]
  | cons set sets inductionHypothesis => simp [contains, inductionHypothesis]

namespace Regex

variable {text : List Char} {first last : Nat} {branches : List Regex}

theorem leads_chain_iff (nonempty : branches ≠ []) :
    (chain branches).Leads text first last ↔ ∃ branch ∈ branches, branch.Leads text first last := by
  induction branches with
  | nil => exact absurd rfl nonempty
  | cons branch branches inductionHypothesis =>
      cases branches with
      | nil => simp [chain]
      | cons next branches =>
          change (branch.Leads text first last ∨ (chain (next :: branches)).Leads text first last) ↔ _
          rw [inductionHypothesis (List.cons_ne_nil _ _)]
          simp

theorem eq_map_of_sets? {sets : List CharSet} (known : sets? branches = some sets) :
    branches = sets.map .one := by
  induction branches generalizing sets with
  | nil =>
      cases known
      rfl
  | cons branch branches inductionHypothesis =>
      cases branch with
      | one set =>
          obtain ⟨others, rest, rfl⟩ := Option.map_eq_some_iff.1 known
          rw [inductionHypothesis rest, List.map_cons]
      | _ => cases known

/-- Alternatives that are one set match as they do one by one. -/
theorem leads_ofBranches_iff (nonempty : branches ≠ []) :
    (ofBranches branches).Leads text first last ↔
      ∃ branch ∈ branches, branch.Leads text first last := by
  have unfolded : ofBranches branches = ((joined? branches).map .one).getD (chain branches) := by
    cases branches with
    | nil => exact absurd rfl nonempty
    | cons => rfl
  rw [unfolded]
  cases known : joined? branches with
  | none => exact leads_chain_iff nonempty
  | some set =>
      obtain ⟨sets, same, joined⟩ := Option.bind_eq_some_iff.1 known
      cases Option.some.inj (Option.ite_none_right_eq_some.1 joined).2
      rw [eq_map_of_sets? same]
      constructor
      · rintro ⟨ends, c, found, passed⟩
        obtain ⟨set, member, passed⟩ := CharSet.contains_unionOf_iff.1 passed
        exact ⟨.one set, List.mem_map_of_mem member, ends, c, found, passed⟩
      · rintro ⟨_, member, leads⟩
        obtain ⟨set, inside, rfl⟩ := List.mem_map.1 member
        obtain ⟨ends, c, found, passed⟩ := leads
        exact ⟨ends, c, found, CharSet.contains_unionOf_iff.2 ⟨set, inside, passed⟩⟩

end Regex

/-! ### Searches -/

/-- A regular expression in its place moves the starts of its matches to the ends. -/
theorem carries_ends (text : List Char) (regex : Regex) :
    Carries text.length (regex.Leads text) ((regex.locate text).ends text.length) := by
  induction regex with
  | empty => exact carries_stay
  | one set =>
      refine carries_step (fun place => ?_) fun place => ?_
      · rw [testBit_maskOf]
        simp
      · rintro ⟨c, found, -⟩
        exact (List.getElem?_eq_some_iff.1 found).1
  | look assertion =>
      refine carries_hold fun place inside => ?_
      rw [testBit_maskOf, List.getElem?_map, getElem?_positions, if_pos inside]
      simp
  | seq front back ofFront ofBack => exact ofFront.seq ofBack
  | alt left right ofLeft ofRight => exact ofLeft.alt ofRight
  | repeated inner least most ofInner => exact ofInner.repeated least most rfl

/-- The search finds a match if there is one, at some positions of the text. -/
theorem matchesIn_iff {text : List Char} {regex : Regex} : regex.matchesIn text = true ↔
    ∃ first last, first ≤ text.length ∧ regex.Leads text first last := by
  have carries := carries_ends text regex
  have start (place : Nat) :
      (Nat.pow 2 (text.length + 1) - 1).testBit place = true ↔ place ≤ text.length := by
    rw [Nat.pow_eq, Nat.testBit_two_pow_sub_one, decide_eq_true_eq, Nat.lt_succ_iff]
  have ends := carries.exactly _ fun place => (start place).1
  rw [Regex.matchesIn, bne_iff_ne]
  constructor
  · intro found
    obtain ⟨last, marked⟩ := Nat.exists_testBit_of_ne_zero found
    obtain ⟨first, begins, leads⟩ := (ends last).1 marked
    exact ⟨first, last, (start first).1 begins, leads⟩
  · rintro ⟨first, last, inside, leads⟩ gone
    have marked := (ends last).2 ⟨first, (start first).2 inside, leads⟩
    rw [gone, Nat.zero_testBit] at marked
    cases marked

end FieldRules.Pattern
