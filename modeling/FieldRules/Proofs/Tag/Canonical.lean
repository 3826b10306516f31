import FieldRules.Proofs.Tag.Grammar

/-!
This file reads canonical tags back. Some tag declares a list of rules if each of them has a proper
keyword and argument, and then the canonical text of the list is such a tag.
-/

namespace FieldRules

open Text

namespace Rule

/-- The keyword is one of a tag, and the argument has no comma. -/
structure WellFormed (rule : Rule) : Prop where
  keyword : IsKeyword rule.keyword.toList
  argument : ∀ argument, rule.argument = some argument →
    IsArgument argument.toList ∧ ',' ∉ argument.toList

/-- A piece of a tag has no comma, so the rule that it spells has none. -/
theorem Spelled.wellFormed {rule : Rule} {piece : List Char} (spelled : rule.Spelled piece)
    (whole : ',' ∉ piece) : rule.WellFormed := by
  cases spelled with
  | bare valid around =>
      exact ⟨by rwa [String.toList_ofList], fun argument asked => by cases asked⟩
  | applied valid fits aroundKeyword aroundArgument back =>
      refine ⟨by rwa [String.toList_ofList], fun argument asked => ?_⟩
      cases asked
      rw [String.toList_ofList, ← aroundArgument.mem_iff rfl]
      refine ⟨fits, fun member => whole ?_⟩
      simp [member]

theorem WellFormed.spelled {rule : Rule} (formed : rule.WellFormed) :
    rule.Spelled rule.text.toList := by
  obtain ⟨keyword, argument⟩ := rule
  cases argument with
  | none =>
      have spelled : Spelled ⟨String.ofList keyword.toList, none⟩ keyword.toList :=
        .bare formed.keyword ⟨[], [], blank_nil, blank_nil, by simp⟩
      rwa [String.ofList_toList] at spelled
  | some argument =>
      have spelled := Spelled.applied formed.keyword (formed.argument argument rfl).1
        ⟨[], [], blank_nil, blank_nil, rfl⟩ ⟨[], [], blank_nil, blank_nil, rfl⟩ blank_nil
      simpa [text, String.ofList_toList] using spelled

theorem WellFormed.comma_not_mem {rule : Rule} (formed : rule.WellFormed) :
    ',' ∉ rule.text.toList := by
  have keyword : ',' ∉ rule.keyword.toList := formed.keyword.not_mem (by decide)
  rw [text]
  split
  · exact keyword
  · next argument asked => simp [keyword, (formed.argument argument asked).2]

end Rule

/-- The rules that a tag declares are well-formed. -/
theorem Declares.wellFormed {tag : String} {rules : List Rule} (declares : Declares tag rules) :
    ∀ rule ∈ rules, rule.WellFormed := by
  rcases declares with ⟨-, rfl⟩ | spelled
  · simp
  · have whole : ∀ piece ∈ tag.toList.splitOn ',', ',' ∉ piece :=
      fun piece => not_mem_of_mem_splitOn
    generalize tag.toList.splitOn ',' = pieces at spelled whole
    induction spelled with
    | nil => simp
    | cons first rest inductionHypothesis =>
        rw [List.forall_mem_cons] at whole ⊢
        exact ⟨first.wellFormed whole.1, inductionHypothesis whole.2⟩

/-- The canonical text of well-formed rules declares them. -/
theorem declares_tagText {rules : List Rule} (formed : ∀ rule ∈ rules, rule.WellFormed) :
    Declares (tagText rules) rules := by
  cases rules with
  | nil => exact .inl ⟨blank_nil, rfl⟩
  | cons first others =>
      refine .inr ?_
      have pieces : (tagText (first :: others)).toList.splitOn ',' =
          (first :: others).map fun rule => rule.text.toList := by
        rw [tagText, String.toList_intercalate, List.map_map]
        refine List.splitOn_intercalate ',' ?_ (by simp)
        rintro piece member
        obtain ⟨rule, ruleMember, rfl⟩ := List.mem_map.1 member
        exact (formed rule ruleMember).comma_not_mem
      rw [pieces, List.forall₂_map_right_iff, List.forall₂_same]
      exact fun rule member => (formed rule member).spelled

/-- Exactly the well-formed rules are read back from their canonical text. -/
theorem canonical_text_is_read_back (rules : List Rule) :
    ((∃ field tag, readTag field tag = .ok rules) ↔ ∀ rule ∈ rules, rule.WellFormed) ∧
    (∀ field, readTag field (tagText rules) = .ok rules ↔ ∀ rule ∈ rules, rule.WellFormed) ∧
    ∀ field tag, readTag field tag = .ok rules → ∀ other,
      readTag other (tagText rules) = .ok rules ∧
      (readTag other (tagText rules)).map tagText = .ok (tagText rules) := by
  have formed_of_read : ∀ {field tag}, readTag field tag = .ok rules →
      ∀ rule ∈ rules, rule.WellFormed := fun read => (readTag_ok_iff.1 read).wellFormed
  have read_of_formed : ∀ field, (∀ rule ∈ rules, rule.WellFormed) →
      readTag field (tagText rules) = .ok rules :=
    fun field formed => readTag_ok_iff.2 (declares_tagText formed)
  refine ⟨⟨?_, fun formed => ⟨"", _, read_of_formed "" formed⟩⟩,
    fun field => ⟨formed_of_read, read_of_formed field⟩, ?_⟩
  · rintro ⟨field, tag, read⟩
    exact formed_of_read read
  · intro field tag read other
    have again := read_of_formed other (formed_of_read read)
    rw [again]
    exact ⟨rfl, rfl⟩

theorem canonical_text_is_read_back_of_spaced_tag :
    readTag "age" " req , min( 3 ) " = .ok [⟨"req", none⟩, ⟨"min", some "3"⟩] ∧
    readTag "size" "req,min(3)" = .ok [⟨"req", none⟩, ⟨"min", some "3"⟩] ∧
    (readTag "size" "req,min(3)").map tagText = .ok "req,min(3)" :=
  ⟨rfl, (canonical_text_is_read_back [⟨"req", none⟩, ⟨"min", some "3"⟩]).2.2 "age"
    " req , min( 3 ) " rfl "size"⟩

end FieldRules
