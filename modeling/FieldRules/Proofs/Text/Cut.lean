import FieldRules.Text.Blank
import FieldRules.Text.Pieces
import Mathlib.Data.List.DropRight

/-!
This file says where texts are cut. Trimming cuts off all blanks at both ends and nothing else, a
mark cuts where it occurs first, and a separator cuts wherever it occurs.
-/

namespace FieldRules.Text

/-! ### Blanks at the ends -/

/-- A blank text has no other characters than blanks; it may be empty. -/
def Blank (text : List Char) : Prop :=
  ∀ c ∈ text, isBlank c = true

/-- A tight text neither starts nor ends with a blank. -/
structure Tight (text : List Char) : Prop where
  first : ∀ c, text.head? = some c → isBlank c = false
  last : ∀ c, text.getLast? = some c → isBlank c = false

theorem blank_nil : Blank [] := by
  simp [Blank]

theorem Blank.append {before after : List Char} (first : Blank before) (second : Blank after) :
    Blank (before ++ after) := by
  intro c member
  exact (List.mem_append.1 member).elim (first c) (second c)

theorem tight_nil : Tight [] :=
  ⟨by simp, by simp⟩

/-- Whatever stands between two tight texts, the whole text is tight. -/
theorem Tight.enclose {front back : List Char} (first : Tight front) (last : Tight back)
    (frontNonempty : front ≠ []) (backNonempty : back ≠ []) (middle : List Char) :
    Tight (front ++ middle ++ back) := by
  refine ⟨fun c head => first.first c ?_, fun c final => last.last c ?_⟩
  · rwa [List.append_assoc, List.head?_append_of_ne_nil _ frontNonempty] at head
  · rwa [List.getLast?_append_of_ne_nil _ backNonempty] at final

theorem trimEnd_eq_rdropWhile (text : List Char) : trimEnd text = text.rdropWhile isBlank := by
  induction text with
  | nil => rfl
  | cons c text inductionHypothesis =>
      rw [trimEnd, inductionHypothesis, List.rdropWhile, List.rdropWhile, List.reverse_cons,
        List.dropWhile_append]
      cases text.reverse.dropWhile isBlank with
      | nil => cases blank : isBlank c <;> simp [blank]
      | cons last kept => cases shown : (last :: kept).reverse <;> simp_all

theorem trim_eq (text : List Char) :
    trim text = (text.dropWhile isBlank).rdropWhile isBlank := by
  rw [trim, trimStart, trimEnd_eq_rdropWhile]

/-- The text is the core with blanks at its ends. -/
def Around (core text : List Char) : Prop :=
  ∃ before after, Blank before ∧ Blank after ∧ text = before ++ core ++ after

theorem Around.append {core text before after : List Char} (around : Around core text)
    (front : Blank before) (back : Blank after) : Around core (before ++ text ++ after) := by
  obtain ⟨left, right, leftBlank, rightBlank, rfl⟩ := around
  exact ⟨before ++ left, right ++ after, front.append leftBlank, rightBlank.append back, by simp⟩

/-- A character that is not blank stands in the core if it stands in the text. -/
theorem Around.mem_iff {core text : List Char} (around : Around core text) {mark : Char}
    (shown : isBlank mark = false) : mark ∈ text ↔ mark ∈ core := by
  obtain ⟨before, after, front, back, rfl⟩ := around
  have ahead : mark ∉ before := fun member => by simp [front mark member] at shown
  have behind : mark ∉ after := fun member => by simp [back mark member] at shown
  simp [ahead, behind]

/-- Trimming removes the blanks around a tight text. -/
theorem Around.trim {core text : List Char} (around : Around core text) (tight : Tight core) :
    Text.trim text = core := by
  obtain ⟨before, after, front, back, rfl⟩ := around
  have start : (before ++ (core ++ after)).dropWhile isBlank = (core ++ after).dropWhile isBlank :=
    List.dropWhile_append_of_pos front
  have tail : (core ++ after).rdropWhile isBlank = core.rdropWhile isBlank := by
    rw [List.rdropWhile, List.reverse_append, List.dropWhile_append_of_pos, List.rdropWhile]
    exact fun c member => back c (List.mem_reverse.1 member)
  rw [trim_eq, List.append_assoc, start]
  cases core with
  | nil =>
      have gone : after.dropWhile isBlank = [] := List.dropWhile_eq_nil_iff.2 back
      rw [List.nil_append, gone, List.rdropWhile_nil]
  | cons c core =>
      have kept : isBlank c = false := tight.first c rfl
      rw [List.cons_append, List.dropWhile_cons_of_neg (by simp [kept]), ← List.cons_append, tail,
        List.rdropWhile_eq_self_iff]
      intro nonempty
      rw [tight.last _ (List.getLast?_eq_some_getLast nonempty)]
      exact Bool.false_ne_true

/-- Only blanks stand around the trimmed text. -/
theorem around_trim (text : List Char) : Around (trim text) text := by
  refine ⟨text.takeWhile isBlank, (text.dropWhile isBlank).rtakeWhile isBlank,
    fun c member => List.mem_takeWhile_imp member,
    fun c member => List.mem_rtakeWhile_imp member, ?_⟩
  rw [trim_eq, List.append_assoc, List.rdropWhile_append_rtakeWhile,
    List.takeWhile_append_dropWhile]

theorem tight_trim (text : List Char) : Tight (trim text) := by
  rw [trim_eq]
  refine ⟨fun c head => ?_, fun c last => ?_⟩
  · have begins := List.head?_dropWhile_not isBlank text
    obtain ⟨after, split⟩ := List.rdropWhile_prefix isBlank (text.dropWhile isBlank)
    rw [← split, List.head?_append, head] at begins
    exact begins
  · have nonempty : (text.dropWhile isBlank).rdropWhile isBlank ≠ [] := by
      intro gone
      simp [gone] at last
    have ends := List.rdropWhile_last_not isBlank _ nonempty
    rw [List.getLast?_eq_some_getLast nonempty] at last
    simpa [Option.some.inj last] using ends

theorem trim_eq_iff {text core : List Char} :
    trim text = core ↔ Tight core ∧ Around core text := by
  constructor
  · rintro rfl
    exact ⟨tight_trim text, around_trim text⟩
  · rintro ⟨tight, around⟩
    exact around.trim tight

theorem trim_eq_nil_iff {text : List Char} : trim text = [] ↔ Blank text := by
  rw [trim_eq_iff]
  constructor
  · rintro ⟨-, before, after, front, back, rfl⟩
    rw [List.append_nil]
    exact front.append back
  · intro blank
    exact ⟨tight_nil, text, [], blank, blank_nil, by simp⟩

/-! ### Marks and separators -/

theorem cutAt?_eq_none_iff {mark : Char} {text : List Char} :
    cutAt? mark text = none ↔ mark ∉ text := by
  induction text with
  | nil => simp [cutAt?]
  | cons c text inductionHypothesis =>
      by_cases same : c = mark
      · simp [cutAt?, same]
      · simp [cutAt?, same, inductionHypothesis, Ne.symm same]

theorem cutAt?_eq_some_iff {mark : Char} {text before after : List Char} :
    cutAt? mark text = some (before, after) ↔ text = before ++ mark :: after ∧ mark ∉ before := by
  induction text generalizing before with
  | nil => simp [cutAt?]
  | cons c text inductionHypothesis =>
      rw [cutAt?]
      split
      · next same =>
          subst same
          cases before with
          | nil => simp
          | cons first before => simp +contextual
      · next other =>
          cases before with
          | nil => simp [other]
          | cons first before =>
              simp only [Option.map_eq_some_iff, Prod.exists, Prod.mk.injEq, List.cons.injEq]
              constructor
              · rintro ⟨front, back, cut, ⟨rfl, rfl⟩, rfl⟩
                obtain ⟨rfl, absent⟩ := inductionHypothesis.1 cut
                exact ⟨by simp, by simp [absent, Ne.symm other]⟩
              · rintro ⟨split, absent⟩
                obtain ⟨rfl, rfl⟩ := List.cons.inj split
                rw [List.mem_cons, not_or] at absent
                exact ⟨before, after, inductionHypothesis.2 ⟨rfl, absent.2⟩, ⟨rfl, rfl⟩, rfl⟩

theorem cutAtLast?_eq_none_iff {mark : Char} {text : List Char} :
    cutAtLast? mark text = none ↔ mark ∉ text := by
  induction text with
  | nil => simp [cutAtLast?]
  | cons c text inductionHypothesis =>
      rw [cutAtLast?, List.mem_cons, not_or, ← inductionHypothesis]
      cases cutAtLast? mark text <;> simp [eq_comm]

theorem cutAtLast?_append {mark : Char} (before : List Char) {after : List Char}
    (absent : mark ∉ after) : cutAtLast? mark (before ++ mark :: after) = some (before, after) := by
  induction before with
  | nil => simp [cutAtLast?, cutAtLast?_eq_none_iff.2 absent]
  | cons c before inductionHypothesis => rw [List.cons_append, cutAtLast?, inductionHypothesis]

/-- The pieces of a text are those between all places where the separator stands. -/
theorem pieces_eq_splitOn (separator : Char) (text : List Char) :
    pieces (· == separator) text = text.splitOn separator := by
  rw [List.splitOn_eq_splitOnP]
  induction text with
  | nil => rfl
  | cons c text inductionHypothesis =>
      rw [pieces, inductionHypothesis, List.splitOnP_cons_eq_if_modifyHead]
      cases pieces : List.splitOnP (· == separator) text with
      | nil => exact absurd pieces (List.splitOnP_ne_nil _ _)
      | cons piece others => rfl

/-- No piece contains the separator. -/
theorem not_mem_of_mem_splitOn {separator : Char} {text piece : List Char}
    (member : piece ∈ text.splitOn separator) : separator ∉ piece := by
  induction text generalizing piece with
  | nil =>
      rw [List.mem_singleton.1 member]
      exact List.not_mem_nil
  | cons c text inductionHypothesis =>
      rw [List.splitOn_eq_splitOnP, List.splitOnP_cons_eq_if_modifyHead,
        ← List.splitOn_eq_splitOnP] at member
      split at member
      · rcases List.mem_cons.1 member with rfl | member
        · exact List.not_mem_nil
        · exact inductionHypothesis member
      · next other =>
          cases pieces : text.splitOn separator with
          | nil => simp [pieces] at member
          | cons first others =>
              rw [pieces] at member inductionHypothesis
              rcases List.mem_cons.1 member with rfl | member
              · have absent := inductionHypothesis List.mem_cons_self
                simpa [absent] using fun same => other (beq_iff_eq.2 same.symm)
              · exact inductionHypothesis (List.mem_cons_of_mem _ member)

end FieldRules.Text
