import FieldRules.Proofs.Tag.Grammar
import FieldRules.Source.Attribute

/-!
This file says how several tags of one field are read. The attributes of a field hold items between
commas, the tags among all items are joined by commas, and the joined tag has the rules of each of
them in turn.
-/

namespace FieldRules

open Text

/-! ### Joined texts -/

/-- The pieces of joined texts are the pieces of each text in turn. -/
theorem splitOn_intercalate_eq_flatMap (separator : Char) {texts : List (List Char)}
    (filled : texts ≠ []) :
    ([separator].intercalate texts).splitOn separator =
      texts.flatMap fun text => text.splitOn separator := by
  induction texts with
  | nil => exact absurd rfl filled
  | cons text texts inductionHypothesis =>
      cases texts with
      | nil => simp
      | cons next texts =>
          have rest := inductionHypothesis (List.cons_ne_nil next texts)
          have joined : [separator].intercalate (text :: next :: texts) =
              text ++ separator :: [separator].intercalate (next :: texts) := by simp
          rw [joined, List.splitOn_append_cons_self, rest]
          rfl

/-- A list related to joined lists is joined from related lists. -/
theorem forall₂_flatMap_right_iff {Left Right Item : Type} {relation : Left → Right → Prop}
    {front : List Left} {items : List Item} {part : Item → List Right} :
    List.Forall₂ relation front (items.flatMap part) ↔
      ∃ parts,
        List.Forall₂ (fun item lefts => List.Forall₂ relation lefts (part item)) items parts ∧
        front = parts.flatten := by
  induction items generalizing front with
  | nil => simp
  | cons item items inductionHypothesis =>
      rw [List.flatMap_cons]
      constructor
      · intro related
        have first := List.forall₂_take_append _ _ _ related
        obtain ⟨parts, others, rest⟩ :=
          inductionHypothesis.1 (List.forall₂_drop_append _ _ _ related)
        refine ⟨_ :: parts, .cons first others, ?_⟩
        rw [List.flatten_cons, ← rest, List.take_append_drop]
      · rintro ⟨_, related, rfl⟩
        cases related with
        | cons first others =>
            exact List.rel_append first (inductionHypothesis.2 ⟨_, others, rfl⟩)

/-! ### Joined tags -/

/-- The pieces of a text that is not blank spell rules if it is read. -/
theorem forall₂_spelled_iff (field tag : String) {rules : List Rule} :
    List.Forall₂ Rule.Spelled rules (tag.toList.splitOn ',') ↔
      ¬Blank tag.toList ∧ readTag field tag = .ok rules := by
  rw [readTag_ok_iff, Declares]
  constructor
  · intro spelled
    refine ⟨fun blank => ?_, .inr spelled⟩
    have whole : tag.toList.splitOn ',' = [tag.toList] :=
      List.splitOn_eq_singleton fun member => by cases blank ',' member
    rw [whole] at spelled
    obtain ⟨rule, _, first, -⟩ := List.forall₂_cons_right_iff.1 spelled
    exact first.not_blank blank
  · rintro ⟨shown, ⟨blank, -⟩ | spelled⟩
    · exact absurd blank shown
    · exact spelled

/-- The pieces of joined tags are the pieces of each tag in turn. -/
theorem splitOn_joined {tags : List String} (filled : tags ≠ []) :
    (",".intercalate tags).toList.splitOn ',' = tags.flatMap fun tag => tag.toList.splitOn ',' := by
  have nonempty : tags.map String.toList ≠ [] := by simpa using filled
  rw [String.toList_intercalate]
  exact (splitOn_intercalate_eq_flatMap ',' nonempty).trans (List.flatMap_map _ _ _)

/-- The tokens of joined tags are the tokens of each tag in turn. -/
theorem tagTokens_joined {tags : List String} (filled : tags ≠ []) :
    tagTokens (",".intercalate tags).toList = tags.flatMap fun tag => tagTokens tag.toList := by
  simp only [tagTokens, pieces_eq_splitOn, splitOn_joined filled, List.map_flatMap]

/-- Joined tags are read if each of them is read and not blank. -/
theorem readTag_joined_ok_iff {field first second : String} {others : List String}
    {rules : List Rule} :
    readTag field (",".intercalate (first :: second :: others)) = .ok rules ↔
      ∃ parts, List.Forall₂ (fun tag part => ¬Blank tag.toList ∧ readTag field tag = .ok part)
        (first :: second :: others) parts ∧ rules = parts.flatten := by
  have shown : ¬Blank (",".intercalate (first :: second :: others)).toList := by
    intro blank
    have comma : ',' ∈ (",".intercalate (first :: second :: others)).toList := by simp
    cases blank ',' comma
  have read : readTag field (",".intercalate (first :: second :: others)) = .ok rules ↔
      List.Forall₂ Rule.Spelled rules
        ((",".intercalate (first :: second :: others)).toList.splitOn ',') := by
    rw [forall₂_spelled_iff field]
    exact (and_iff_right shown).symm
  rw [read, splitOn_joined (List.cons_ne_nil _ _), forall₂_flatMap_right_iff]
  simp only [forall₂_spelled_iff field]

namespace Source

/-! ### Items -/

/-- An item is a literal, a name or a name with a literal. -/
inductive TagItem.Written : TagItem → List Token → Prop
  | tag {literal : Token} {text : String} (value : stringValue? literal = some text) :
      Written (.tag text) [literal]
  | keyed {key text : String} {literal : Token} {isJoint : Bool} (name : isName key = true)
      (value : stringValue? literal = some text) :
      Written (.keyed key text) [.word key, .mark '=' isJoint, literal]
  | flag {name : String} (valid : isName name = true) : Written (.flag name) [.word name]

/-- Items have commas between them, and one more comma may follow. -/
inductive AreWritten : List TagItem → List Token → Prop
  | none : AreWritten [] []
  | last {item : TagItem} {tokens : List Token} (written : item.Written tokens) :
      AreWritten [item] tokens
  | more {item : TagItem} {items : List TagItem} {tokens rest : List Token} {isJoint : Bool}
      (written : item.Written tokens) (others : AreWritten items rest) :
      AreWritten (item :: items) (tokens ++ .mark ',' isJoint :: rest)

/-- A tag attribute holds the items in its brackets, and other attributes hold none. -/
inductive Attribute.Holds : Attribute → List TagItem → Prop
  | tagged (bracket : Bracket) {inner : List Token} {items : List TagItem}
      (written : AreWritten items inner) : Holds ⟨[.word "tagval"], .list bracket inner⟩ items
  | other {item : Attribute} (foreign : item.path ≠ [.word "tagval"]) : Holds item []

section

variable {item : TagItem} {tokens rest written : List Token}

theorem takeMark?_eq_some_iff {c : Char} :
    takeMark? c tokens = some rest ↔ ∃ isJoint, tokens = .mark c isJoint :: rest := by
  constructor
  · intro taken
    unfold takeMark? at taken
    split at taken
    · next d isJoint others =>
        split at taken
        · next same =>
            cases taken
            exact ⟨isJoint, by rw [same]⟩
        · cases taken
    · cases taken
  · rintro ⟨isJoint, rfl⟩
    simp [takeMark?]

theorem stringValue?_word (word : String) : stringValue? (.word word) = none := rfl

/-- An item that is taken is written in front of the rest. -/
theorem written_of_takeTagItem {token : Token} {after : List Token}
    (taken : takeTagItem token rest = .ok (item, after)) :
    ∃ front, item.Written front ∧ token :: rest = front ++ after := by
  unfold takeTagItem at taken
  split at taken
  · next text value =>
      cases taken
      exact ⟨_, .tag value, rfl⟩
  · split at taken
    · split at taken
      · cases taken
      · next word _ valid =>
          have valid : isName word = true := by simpa using valid
          split at taken
          · cases taken
            exact ⟨_, .flag valid, rfl⟩
          · cases taken
          · next literal others assigned =>
              obtain ⟨isJoint, rfl⟩ := takeMark?_eq_some_iff.1 assigned
              split at taken
              · next text value =>
                  cases taken
                  exact ⟨_, .keyed valid value, rfl⟩
              · cases taken
    · cases taken

/-- An item is taken up to where no equals sign follows. -/
theorem takeTagItem_of_written (written : item.Written tokens)
    (ended : takeMark? '=' rest = none) :
    ∃ token others, tokens ++ rest = token :: others ∧
      takeTagItem token others = .ok (item, rest) := by
  cases written with
  | tag value =>
      refine ⟨_, _, rfl, ?_⟩
      unfold takeTagItem
      rw [value]
      rfl
  | @keyed key text literal isJoint valid value =>
      refine ⟨_, _, rfl, ?_⟩
      simp [takeTagItem, stringValue?_word, valid, takeMark?, value]
  | flag valid =>
      refine ⟨_, _, rfl, ?_⟩
      simp [takeTagItem, stringValue?_word, valid, ended]

/-- The items that are read are written, whatever the number of steps. -/
theorem areWritten_of_readTagItems {steps : Nat} {items : List TagItem}
    (read : readTagItems steps tokens = .ok items) : AreWritten items tokens := by
  induction steps generalizing tokens items with
  | zero => simp [readTagItems] at read
  | succ steps inductionHypothesis =>
      cases tokens with
      | nil =>
          simp only [readTagItems, Except.ok.injEq] at read
          rw [← read]
          exact .none
      | cons token others =>
          rw [readTagItems] at read
          split at read
          · cases read
          · next item taken =>
              obtain ⟨front, written, split⟩ := written_of_takeTagItem taken
              cases read
              rw [split, List.append_nil]
              exact .last written
          · next item after _ taken =>
              obtain ⟨front, written, split⟩ := written_of_takeTagItem taken
              split at read
              · cases read
              · next rest separated =>
                  obtain ⟨isJoint, rfl⟩ := takeMark?_eq_some_iff.1 separated
                  cases further : readTagItems steps rest with
                  | error error => simp [further, Except.map] at read
                  | ok more =>
                      simp only [further, Except.map, Except.ok.injEq] at read
                      rw [← read, split]
                      exact .more written (inductionHypothesis further)

/-- The items that are written are read if there are more steps than tokens. -/
theorem readTagItems_of_areWritten {steps : Nat} {items : List TagItem}
    (written : AreWritten items tokens) (enough : tokens.length < steps) :
    readTagItems steps tokens = .ok items := by
  obtain ⟨steps, rfl⟩ := Nat.exists_eq_add_one_of_ne_zero (Nat.ne_zero_of_lt enough)
  induction written generalizing steps with
  | none => simp [readTagItems]
  | last written =>
      obtain ⟨token, others, split, taken⟩ :=
        takeTagItem_of_written written (show takeMark? '=' [] = none from rfl)
      rw [List.append_nil] at split
      rw [split, readTagItems, taken]
  | @more item items front rest isJoint written _ inductionHypothesis =>
      obtain ⟨token, after, split, taken⟩ := takeTagItem_of_written written
        (show takeMark? '=' (.mark ',' isJoint :: rest) = none from rfl)
      rw [List.length_append, List.length_cons] at enough
      obtain ⟨fewer, rfl⟩ := Nat.exists_eq_add_one_of_ne_zero (show steps ≠ 0 by omega)
      have read := inductionHypothesis fewer (by omega)
      rw [split, readTagItems, taken]
      simp [takeMark?, read, Except.map]

end

/-- The items of an attribute are those that it holds. -/
theorem Attribute.tagItems_ok_iff {item : Attribute} {items : List TagItem} :
    item.tagItems = .ok items ↔ item.Holds items := by
  constructor
  · intro read
    obtain ⟨path, body⟩ := item
    unfold Attribute.tagItems at read
    split at read
    · next named =>
        dsimp only at named read
        subst named
        split at read
        · next _ bracket inner =>
            exact .tagged bracket (areWritten_of_readTagItems read)
        · cases read
    · next foreign =>
        cases read
        exact .other foreign
  · intro holds
    cases holds with
    | tagged bracket written => exact readTagItems_of_areWritten written (Nat.lt_succ_self _)
    | other foreign =>
        unfold Attribute.tagItems
        split
        · next named => exact absurd named foreign
        · rfl

/-- The items of all attributes stand in the order of the attributes. -/
theorem tagItemsOf_ok_iff {attributes : List Attribute} {items : List TagItem} :
    tagItemsOf attributes = .ok items ↔
      ∃ lists, List.Forall₂ Attribute.Holds attributes lists ∧ items = lists.flatten := by
  induction attributes generalizing items with
  | nil => simp [tagItemsOf, eq_comm]
  | cons first attributes inductionHypothesis =>
      rw [tagItemsOf]
      constructor
      · intro read
        split at read
        · cases read
        · next own ofFirst =>
            cases rest : tagItemsOf attributes with
            | error error => simp [rest, Except.map] at read
            | ok more =>
                simp only [rest, Except.map, Except.ok.injEq] at read
                obtain ⟨lists, others, rfl⟩ := inductionHypothesis.1 rest
                exact ⟨own :: lists, .cons (Attribute.tagItems_ok_iff.1 ofFirst) others, read.symm⟩
      · rintro ⟨_, holds, rfl⟩
        cases holds with
        | @cons _ own _ lists ofFirst others =>
            rw [Attribute.tagItems_ok_iff.2 ofFirst]
            dsimp only
            rw [inductionHypothesis.2 ⟨lists, others, rfl⟩]
            rfl

/-- The tags of a field are read in turn, and no rule spans two tags. -/
theorem joined_tags_are_read_in_turn {attributes : List Attribute} {lists : List (List TagItem)}
    (holds : List.Forall₂ Attribute.Holds attributes lists) {first : String} {others : List String}
    (tags : lists.flatten.filterMap TagItem.tag? = first :: others) :
    ∃ items joined, tagItemsOf attributes = .ok items ∧ joinedTag? items = some joined ∧
      tagTokens joined.toList = (first :: others).flatMap (fun tag => tagTokens tag.toList) ∧
      ∀ field,
        (others = [] → readTag field joined = readTag field first) ∧
        (others ≠ [] → ∀ rules, readTag field joined = .ok rules ↔
          ∃ parts, List.Forall₂ (fun tag part => ¬Blank tag.toList ∧ readTag field tag = .ok part)
            (first :: others) parts ∧ rules = parts.flatten) := by
  have joins : joinedTag? lists.flatten = some (",".intercalate (first :: others)) := by
    rw [joinedTag?, tags]
  refine ⟨lists.flatten, _, tagItemsOf_ok_iff.2 ⟨lists, holds, rfl⟩, joins,
    tagTokens_joined (List.cons_ne_nil first others), fun field => ⟨?_, ?_⟩⟩
  · rintro rfl
    rfl
  · intro several rules
    obtain ⟨second, more, rfl⟩ := List.exists_cons_of_ne_nil several
    exact readTag_joined_ok_iff

/-- Two tags and a flag in two attributes, with documentation between them. -/
def taggedTwice : List Attribute :=
  [⟨[.word "tagval"], .list .round [.literal "\"req, max(8)\"", .mark ',' false, .word "skip"]⟩,
    ⟨[.word "doc"], .value [.literal "\"The nick name.\""]⟩,
    ⟨[.word "tagval"],
      .list .round [.word "tag", .mark '=' false, .literal "\"min(3)\"", .mark ',' false]⟩]

theorem joined_tags_are_read_in_turn_of_taggedTwice :
    List.Forall₂ Attribute.Holds taggedTwice
      [[.tag "req, max(8)", .flag "skip"], [], [.keyed "tag" "min(3)"]] ∧
    ∃ items joined, tagItemsOf taggedTwice = .ok items ∧ joinedTag? items = some joined ∧
      readTag "nick" joined = .ok [⟨"req", none⟩, ⟨"max", some "8"⟩, ⟨"min", some "3"⟩] := by
  have holds : List.Forall₂ Attribute.Holds taggedTwice
      [[.tag "req, max(8)", .flag "skip"], [], [.keyed "tag" "min(3)"]] := by
    refine .cons ?_ (.cons (.other (by simp)) (.cons ?_ .nil))
    · exact .tagged .round (.more (.tag rfl) (.last (.flag (by decide))))
    · have written : TagItem.Written (.keyed "tag" "min(3)")
          [.word "tag", .mark '=' false, .literal "\"min(3)\""] := .keyed (by decide) rfl
      exact .tagged .round (.more written .none)
  refine ⟨holds, ?_⟩
  obtain ⟨items, joined, read, joins, -, each⟩ := joined_tags_are_read_in_turn holds
    (show _ = ["req, max(8)", "min(3)"] from rfl)
  refine ⟨items, joined, read, joins, ((each "nick").2 (by simp) _).2 ?_⟩
  refine ⟨[[⟨"req", none⟩, ⟨"max", some "8"⟩], [⟨"min", some "3"⟩]], ?_, rfl⟩
  refine .cons ⟨fun blank => ?_, rfl⟩ (.cons ⟨fun blank => ?_, rfl⟩ .nil)
  · cases blank 'r' (by decide)
  · cases blank 'm' (by decide)

end Source

end FieldRules
