import FieldRules.Json.Printer
import FieldRules.Json.Reader
import FieldRules.Proofs.Text.Numeral
import Mathlib.Data.List.Basic

/-!
This file reads printed JSON back. A tree of texts, lists and tables is printed on one line, and the
reader gives the same tree for this line.
-/

namespace FieldRules.Json

/-! ### Strings -/

/-- The number of a control has four hexadecimal digits, and two of them are zeros. -/
theorem readUnit?_control {value : Nat} (small : value < 32) (rest : List Char) :
    readUnit? ('0' :: '0' :: Text.lowerHexDigit (value / 16) ::
      Text.lowerHexDigit (value % 16) :: rest) = some (value, rest) := by
  have zero : Text.hexDigit? '0' = some 0 := rfl
  have high := Text.hexDigit?_lowerHexDigit (value / 16) (by omega)
  have low := Text.hexDigit?_lowerHexDigit (value % 16) (Nat.mod_lt _ (by decide))
  simp [readUnit?, zero, high, low]
  omega

/-- An escaped character is read as the character itself. -/
theorem readString?_escapeChar (c : Char) (steps : Nat) (text : List Char) :
    readString? (steps + 1) (escapeChar c ++ text) =
      (readString? steps text).map fun read => (c :: read.1, read.2) := by
  have escaped {mark : List Char} (marked : escapeChar c = '\\' :: mark)
      (meant : ∀ text, readEscape? (mark ++ text) = some (some c, text)) :
      readString? (steps + 1) (escapeChar c ++ text) =
        (readString? steps text).map fun read => (c :: read.1, read.2) := by
    rw [marked, List.cons_append, readString?, if_neg (by decide), if_pos rfl, meant,
      Option.bind_eq_bind, Option.bind_some]
    dsimp only
    cases readString? steps text <;> rfl
  by_cases short : c ∈ ['"', '\\', '\x08', '\x0c', '\n', '\r', '\t']
  · simp only [List.mem_cons, List.not_mem_nil, or_false] at short
    rcases short with rfl | rfl | rfl | rfl | rfl | rfl | rfl <;>
      exact escaped rfl fun text => rfl
  · simp only [List.mem_cons, List.not_mem_nil, or_false, not_or] at short
    obtain ⟨quote, slash, back, feed, line, carriage, tab⟩ := short
    have plain : escapeChar c = if c < ' ' then ['\\', 'u', '0', '0',
        Text.lowerHexDigit (c.toNat / 16), Text.lowerHexDigit (c.toNat % 16)] else [c] := by
      simp [escapeChar, quote, slash, back, feed, line, carriage, tab]
    by_cases control : c < ' '
    · rw [if_pos control] at plain
      have small : c.toNat < 32 := control
      refine escaped plain fun text => ?_
      have high : isHighSurrogate c.toNat = false := by simp [isHighSurrogate]; omega
      have low : isLowSurrogate c.toNat = false := by simp [isLowSurrogate]; omega
      simp [readEscape?, readUnit?_control small, high, low]
    · rw [plain, if_neg control, List.singleton_append, readString?, if_neg quote, if_neg slash,
        if_neg control]
      cases readString? steps text <;> rfl

/-- The characters of a quoted text are read up to the closing quote. -/
theorem readString?_quoted (text rest : List Char) {steps : Nat} (enough : text.length < steps) :
    readString? steps (text.flatMap escapeChar ++ '"' :: rest) = some (text, true, rest) := by
  induction text generalizing steps with
  | nil =>
      cases steps with
      | zero => cases enough
      | succ steps => rfl
  | cons c text inductionHypothesis =>
      cases steps with
      | zero => cases enough
      | succ steps =>
          rw [List.flatMap_cons, List.append_assoc, readString?_escapeChar,
            inductionHypothesis (Nat.lt_of_succ_lt_succ enough)]
          rfl

/-- A quoted text is read with all steps that its characters allow. -/
theorem readString?_whole (text rest : List Char) :
    readString? ((text.flatMap escapeChar ++ '"' :: rest).length + 1)
      (text.flatMap escapeChar ++ '"' :: rest) = some (text, true, rest) := by
  have filled (c : Char) : 0 < (escapeChar c).length := by
    unfold escapeChar
    split_ifs <;> exact Nat.zero_lt_succ _
  have longer : text.length ≤ (text.flatMap escapeChar).length := by
    induction text with
    | nil => exact Nat.zero_le _
    | cons c text inductionHypothesis =>
        have first := filled c
        rw [List.flatMap_cons, List.length_cons, List.length_append]
        omega
  refine readString?_quoted text rest ?_
  rw [List.length_append]
  omega

/-! ### Trees -/

/-- The tree has no numbers and no marks, and it nests at most this deep. -/
inductive Nests : Nat → Data → Prop
  | null {depth : Nat} : Nests depth .null
  | boolean {depth : Nat} (value : Bool) : Nests depth (.boolean value)
  | text {depth : Nat} (value : String) : Nests depth (.text value)
  | list {depth : Nat} {items : List Data} (each : ∀ item ∈ items, Nests depth item) :
      Nests (depth + 1) (.list items)
  | table {depth : Nat} {members : List (String × Data)}
      (each : ∀ member ∈ members, Nests depth member.2) : Nests (depth + 1) (.table members)

/-- The characters of a printed tree. -/
def printed (data : Data) : List Char :=
  (compact data).toList

/-- The reader gives the tree for its printed form, whatever follows. -/
def ReadsBack (depth : Nat) (data : Data) : Prop :=
  ∀ (steps : Nat) (rest : List Char), (printed data).length ≤ steps →
    readValue? steps depth (printed data ++ rest) = some (data, rest)

def printedMember (member : String × Data) : List Char :=
  '"' :: member.1.toList.flatMap escapeChar ++ '"' :: ':' :: printed member.2

theorem printed_text (value : String) :
    printed (.text value) = '"' :: value.toList.flatMap escapeChar ++ ['"'] := by
  simp [printed, compact, quote]

theorem printed_list (items : List Data) :
    printed (.list items) = '[' :: [','].intercalate (items.map printed) ++ [']'] := by
  have each (items : List Data) : (compactAll items).map String.toList = items.map printed := by
    induction items with
    | nil => rfl
    | cons item items inductionHypothesis =>
        rw [compactAll, List.map_cons, inductionHypothesis, List.map_cons, printed]
  simp [printed, compact, String.toList_intercalate, each]

theorem printed_table (members : List (String × Data)) :
    printed (.table members) =
      '\x7b' :: [','].intercalate (members.map printedMember) ++ ['\x7d'] := by
  have each (members : List (String × Data)) :
      (compactMembers members).map String.toList = members.map printedMember := by
    induction members with
    | nil => rfl
    | cons member members inductionHypothesis =>
        obtain ⟨name, value⟩ := member
        rw [compactMembers, List.map_cons, inductionHypothesis, List.map_cons, printedMember]
        simp [quote, printed]
  simp [printed, compact, String.toList_intercalate, each]

/-- A printed tree begins with neither a space nor a closing bracket. -/
theorem Nests.exists_head {depth : Nat} {data : Data} (nests : Nests depth data) :
    ∃ c rest, printed data = c :: rest ∧ isSpace c = false ∧ c ≠ ']' := by
  cases nests with
  | null => exact ⟨'n', _, rfl, by decide, by decide⟩
  | boolean value => cases value <;> exact ⟨_, _, rfl, by decide, by decide⟩
  | text value => exact ⟨'"', _, printed_text value, by decide, by decide⟩
  | list each => exact ⟨'[', _, printed_list _, by decide, by decide⟩
  | table each => exact ⟨'\x7b', _, printed_table _, by decide, by decide⟩

/-- Parts with commas between them begin with the first part. -/
theorem exists_intercalate_cons (first : List Char) (others : List (List Char)) :
    ∃ further, [','].intercalate (first :: others) = first ++ further := by
  cases others with
  | nil => exact ⟨[], by rw [List.intercalate_singleton, List.append_nil]⟩
  | cons second others => exact ⟨_, by rw [List.intercalate_cons_cons, List.append_assoc]⟩

theorem skip_cons {c : Char} {rest : List Char} (filled : isSpace c = false) :
    skip (c :: rest) = c :: rest := by
  rw [skip, List.dropWhile_cons_of_neg (by simp [filled])]

section

variable {depth steps : Nat}

/-- A comma after an item leads to further items, and the closing bracket ends them. -/
theorem readItems?_cons {item : Data} (back : ReadsBack depth item)
    (enough : (printed item).length ≤ steps) (rest : List Char) :
    readItems? (steps + 1) depth (printed item ++ ']' :: rest) = some ([item], rest) ∧
    readItems? (steps + 1) depth (printed item ++ ',' :: rest) =
      (readItems? steps depth rest).map fun read => (item :: read.1, read.2) := by
  constructor
  · rw [readItems?, back steps _ enough, Option.bind_eq_bind, Option.bind_some]
    dsimp only
    rw [skip_cons (by decide)]
    rfl
  · rw [readItems?, back steps _ enough, Option.bind_eq_bind, Option.bind_some]
    dsimp only
    rw [skip_cons (by decide)]
    change (readItems? steps depth rest).bind _ = _
    cases readItems? steps depth rest <;> rfl

/-- A comma after a member leads to further members, and the closing brace ends them. -/
theorem readMembers?_cons {member : String × Data} (back : ReadsBack depth member.2)
    (enough : (printed member.2).length ≤ steps) (rest : List Char) :
    readMembers? (steps + 1) depth (printedMember member ++ '\x7d' :: rest) =
      some ([member], rest) ∧
    readMembers? (steps + 1) depth (printedMember member ++ ',' :: rest) =
      (readMembers? steps depth rest).map fun read => (member :: read.1, read.2) := by
  obtain ⟨name, value⟩ := member
  have whole (text : List Char) : printedMember (name, value) ++ text =
      '"' :: (name.toList.flatMap escapeChar ++ '"' :: (':' :: printed value ++ text)) := by
    simp [printedMember]
  constructor
  -- The name, the colon and the value are read in one way, whatever ends the member.
  all_goals
    rw [whole, readMembers?, skip_cons (by decide)]
    change Option.bind (readString? (_ + 1) _) _ = _
    rw [readString?_whole, Option.bind_some]
    simp only [Bool.not_true, Bool.false_eq_true, if_false, List.cons_append, String.ofList_toList]
    rw [skip_cons (by decide)]
    change Option.bind (readValue? steps depth (printed value ++ _)) _ = _
    rw [back steps _ enough, Option.bind_some]
    dsimp only
    rw [skip_cons (by decide)]
  · rfl
  · change (readMembers? steps depth rest).bind _ = _
    cases readMembers? steps depth rest <;> rfl

end

/-- The printed items of a list are read up to the closing bracket. -/
theorem readItems?_printed {depth : Nat} {items : List Data} (filled : items ≠ [])
    (each : ∀ item ∈ items, ReadsBack depth item) {steps : Nat} (rest : List Char)
    (enough : ([','].intercalate (items.map printed)).length < steps) :
    readItems? steps depth ([','].intercalate (items.map printed) ++ ']' :: rest) =
      some (items, rest) := by
  induction items generalizing steps with
  | nil => exact absurd rfl filled
  | cons item items inductionHypothesis =>
      obtain ⟨first, others⟩ := List.forall_mem_cons.1 each
      obtain ⟨steps, rfl⟩ := Nat.exists_eq_add_one_of_ne_zero (Nat.ne_zero_of_lt enough)
      cases items with
      | nil =>
          rw [List.map_singleton, List.intercalate_singleton] at enough ⊢
          exact (readItems?_cons first (Nat.le_of_lt_succ enough) rest).1
      | cons next items =>
          rw [List.map_cons, List.map_cons, List.intercalate_cons_cons, ← List.map_cons] at enough ⊢
          simp only [List.length_append, List.length_singleton] at enough
          rw [List.append_assoc, List.append_assoc, List.singleton_append,
            (readItems?_cons first (by omega) _).2, inductionHypothesis (by simp) others (by omega)]
          rfl

/-- The printed members of a table are read up to the closing brace. -/
theorem readMembers?_printed {depth : Nat} {members : List (String × Data)} (filled : members ≠ [])
    (each : ∀ member ∈ members, ReadsBack depth member.2) {steps : Nat} (rest : List Char)
    (enough : ([','].intercalate (members.map printedMember)).length < steps) :
    readMembers? steps depth ([','].intercalate (members.map printedMember) ++ '\x7d' :: rest) =
      some (members, rest) := by
  have longer (member : String × Data) :
      (printed member.2).length ≤ (printedMember member).length := by
    simp [printedMember]
    omega
  induction members generalizing steps with
  | nil => exact absurd rfl filled
  | cons member members inductionHypothesis =>
      obtain ⟨first, others⟩ := List.forall_mem_cons.1 each
      obtain ⟨steps, rfl⟩ := Nat.exists_eq_add_one_of_ne_zero (Nat.ne_zero_of_lt enough)
      have shorter := longer member
      cases members with
      | nil =>
          rw [List.map_singleton, List.intercalate_singleton] at enough ⊢
          exact (readMembers?_cons first (by omega) rest).1
      | cons next members =>
          rw [List.map_cons, List.map_cons, List.intercalate_cons_cons, ← List.map_cons] at enough ⊢
          simp only [List.length_append, List.length_singleton] at enough
          rw [List.append_assoc, List.append_assoc, List.singleton_append,
            (readMembers?_cons first (by omega) _).2,
            inductionHypothesis (by simp) others (by omega)]
          rfl

/-- The items of a list follow its opening bracket. -/
theorem readValue?_list {c : Char} (filled : isSpace c = false) (apart : c ≠ ']')
    {depth steps : Nat} {text : List Char} : readValue? (steps + 1) (depth + 1) ('[' :: c :: text) =
      (readItems? steps depth (c :: text)).map fun read => (.list read.1, read.2) := by
  rw [readValue?, skip_cons (by decide)]
  dsimp only
  rw [if_neg (by decide), if_pos rfl, if_neg (Nat.succ_ne_zero depth), skip_cons filled]
  split
  · next same => exact absurd (List.cons.inj same).1 apart
  · change (readItems? steps depth (c :: text)).bind _ = _
    cases readItems? steps depth (c :: text) <;> rfl

/-- The members of a table follow its opening brace. -/
theorem readValue?_table {depth steps : Nat} {text : List Char} :
    readValue? (steps + 1) (depth + 1) ('\x7b' :: '"' :: text) =
      (readMembers? steps depth ('"' :: text)).map fun read => (.table read.1, read.2) := by
  rw [readValue?, skip_cons (by decide)]
  dsimp only
  rw [if_neg (by decide), if_neg (by decide), if_pos rfl, if_neg (Nat.succ_ne_zero depth),
    skip_cons (by decide)]
  change (readMembers? steps depth ('"' :: text)).bind _ = _
  cases readMembers? steps depth ('"' :: text) <;> rfl

theorem exists_head_items {depth : Nat} {items : List Data}
    (each : ∀ item ∈ items, Nests depth item) (filled : items ≠ []) :
    ∃ c rest, [','].intercalate (items.map printed) = c :: rest ∧ isSpace c = false ∧ c ≠ ']' := by
  obtain ⟨item, items, rfl⟩ := List.exists_cons_of_ne_nil filled
  obtain ⟨c, rest, begins, ends⟩ := (each item List.mem_cons_self).exists_head
  obtain ⟨further, joined⟩ := exists_intercalate_cons (printed item) (items.map printed)
  exact ⟨c, rest ++ further, by rw [List.map_cons, joined, begins, List.cons_append], ends⟩

theorem exists_head_members {members : List (String × Data)} (filled : members ≠ []) :
    ∃ rest, [','].intercalate (members.map printedMember) = '"' :: rest := by
  obtain ⟨member, members, rfl⟩ := List.exists_cons_of_ne_nil filled
  obtain ⟨further, joined⟩ := exists_intercalate_cons (printedMember member)
    (members.map printedMember)
  exact ⟨_, by rw [List.map_cons, joined]; rfl⟩

/-- A tree that nests no deeper than the reader goes is read back. -/
theorem Nests.readsBack {depth : Nat} {data : Data} (nests : Nests depth data) :
    ReadsBack depth data := by
  induction nests with
  | null =>
      rintro (_ | steps) rest enough
      · cases enough
      · rfl
  | boolean value =>
      rintro (_ | steps) rest enough
      · cases value <;> cases enough
      · cases value <;> rfl
  | text value =>
      rintro (_ | steps) rest enough
      · simp [printed_text] at enough
      · rw [printed_text, readValue?]
        simp only [List.cons_append, List.append_assoc]
        rw [skip_cons (by decide)]
        dsimp only
        rw [if_pos rfl, List.nil_append, readString?_whole]
        simp
  | @list depth items each inductionHypothesis =>
      rintro (_ | steps) rest enough
      · simp [printed_list] at enough
      · rw [printed_list] at enough ⊢
        simp only [List.length_cons, List.length_append] at enough
        rw [List.cons_append, List.cons_append, List.append_assoc, List.singleton_append]
        by_cases empty : items = []
        · rw [empty]
          rfl
        · obtain ⟨c, front, begins, filled, apart⟩ := exists_head_items each empty
          have read : readItems? steps depth _ = some (items, rest) :=
            readItems?_printed empty inductionHypothesis rest (by omega)
          rw [begins, List.cons_append] at read ⊢
          rw [readValue?_list filled apart, read]
          rfl
  | @table depth members each inductionHypothesis =>
      rintro (_ | steps) rest enough
      · simp [printed_table] at enough
      · rw [printed_table] at enough ⊢
        simp only [List.length_cons, List.length_append] at enough
        rw [List.cons_append, List.cons_append, List.append_assoc, List.singleton_append]
        by_cases empty : members = []
        · rw [empty]
          rfl
        · obtain ⟨front, begins⟩ := exists_head_members empty
          have read : readMembers? steps depth _ = some (members, rest) :=
            readMembers?_printed empty inductionHypothesis rest (by omega)
          rw [begins, List.cons_append] at read ⊢
          rw [readValue?_table, read]
          rfl

/-- The reader gives the tree for the line on which it is printed. -/
theorem tree?_compact {data : Data} (nests : Nests depthLimit data) :
    tree? (compact data) = some data := by
  have read := nests.readsBack ((compact data).toList.length + 1) [] (Nat.le_succ _)
  rw [List.append_nil, printed] at read
  rw [tree?, read]
  rfl

end FieldRules.Json
