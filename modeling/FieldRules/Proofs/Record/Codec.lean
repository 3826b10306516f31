import FieldRules.Proofs.Json.RoundTrip
import FieldRules.Record.Codec
import Mathlib.Data.List.Forall2
import Mathlib.Data.List.Perm.Basic

/-!
This file shows that records survive being written. A structure has a slot for each of its members,
and it may be written as a table, with its members in any order and among others, or as a list.
-/

namespace FieldRules

/-! ### Slots -/

/-- A slot is the place of one member, which has several names. -/
structure Slot where
  names : List String
  admits : Data → Prop
  mayLack : Prop

namespace Slot

/-- The slot has this part, or it has none and needs none. -/
def Takes (slot : Slot) : Option Data → Prop
  | none => slot.mayLack
  | some data => slot.admits data

/-- No name belongs to two slots. -/
def Apart (slots : List Slot) : Prop :=
  slots.Pairwise fun slot other => ∀ name ∈ slot.names, name ∉ other.names

/-- The members stand for the slots in their order, and some slots are left out. -/
inductive Fills : List Slot → List (String × Data) → Prop
  | done : Fills [] []
  | put {slot : Slot} {slots : List Slot} {name : String} {data : Data}
      {members : List (String × Data)} (known : name ∈ slot.names) (fits : slot.admits data)
      (rest : Fills slots members) : Fills (slot :: slots) ((name, data) :: members)
  | leave {slot : Slot} {slots : List Slot} {members : List (String × Data)}
      (spare : slot.mayLack) (rest : Fills slots members) : Fills (slot :: slots) members

/-- The items stand for the slots, and only slots at the end are left out. -/
inductive Places : List Slot → List Data → Prop
  | stop {slots : List Slot} (spare : ∀ slot ∈ slots, slot.mayLack) : Places slots []
  | next {slot : Slot} {slots : List Slot} {data : Data} {items : List Data}
      (fits : slot.admits data) (rest : Places slots items) : Places (slot :: slots) (data :: items)

/-- A table has its members in any order, and a list has them by place. -/
inductive Holds (format : DataFormat) (slots : List Slot) : Data → Prop
  | table {known strange members : List (String × Data)} (filled : Fills slots known)
      (unnamed : ∀ member ∈ strange, ∀ slot ∈ slots, member.1 ∉ slot.names)
      (order : members.Perm (known ++ strange)) : Holds format slots (.table members)
  | list {items : List Data} (positional : format.isPositional = true)
      (placed : Places slots items) : Holds format slots (.list items)

end Slot

/-! ### Members -/

namespace Data

/-- The values of all members that go by one of the names. -/
def under (members : List (String × Data)) (names : List String) : List Data :=
  (members.filter fun member => names.contains member.1).map Prod.snd

section

variable {members : List (String × Data)} {names : List String}

theorem only?_eq_some_iff {part : Option Data} :
    only? members names = some part ↔ under members names = part.toList := by
  rw [only?, under]
  generalize members.filter (fun member => names.contains member.1) = found
  rcases found with _ | ⟨first, _ | ⟨second, rest⟩⟩ <;> cases part <;> simp

theorem under_eq_nil (unnamed : ∀ member ∈ members, member.1 ∉ names) :
    under members names = [] := by
  rw [under, List.map_eq_nil_iff, List.filter_eq_nil_iff]
  exact fun member inside => List.contains_iff_mem.not.2 (unnamed member inside)

theorem under_append (further : List (String × Data)) :
    under (members ++ further) names = under members names ++ under further names := by
  rw [under, List.filter_append, List.map_append, ← under, ← under]

theorem under_cons (name : String) (data : Data) :
    under ((name, data) :: members) names =
      if name ∈ names then data :: under members names else under members names := by
  rw [under, under]
  by_cases known : name ∈ names <;> simp [known]

/-- Only one value is found if the members have only one, in whatever order they stand. -/
theorem only?_of_perm {others : List (String × Data)} {part : Option Data}
    (order : others.Perm members) (found : under members names = part.toList) :
    only? others names = some part := by
  have same : (under others names).Perm part.toList := by
    rw [← found, under, under]
    exact (order.filter _).map _
  rw [only?_eq_some_iff]
  cases part with
  | none => exact same.eq_nil
  | some data => exact same.eq_singleton

/-- Two members for one slot are too many. -/
theorem only?_eq_none {first second : String × Data} (one : first ∈ members)
    (another : second ∈ members) (apart : first ≠ second) (known : first.1 ∈ names)
    (alsoKnown : second.1 ∈ names) : only? members names = none := by
  have inside {member : String × Data} (present : member ∈ members) (named : member.1 ∈ names) :
      member ∈ members.filter fun member => names.contains member.1 :=
    List.mem_filter.2 ⟨present, List.contains_iff_mem.2 named⟩
  have one := inside one known
  have another := inside another alsoKnown
  rw [only?]
  generalize members.filter (fun member => names.contains member.1) = found at one another ⊢
  rcases found with _ | ⟨member, _ | ⟨other, rest⟩⟩
  · cases one
  · exact absurd ((List.mem_singleton.1 one).trans (List.mem_singleton.1 another).symm) apart
  · rfl

end

end Data

namespace Slot

variable {slots : List Slot}

theorem Fills.exists_slot {members : List (String × Data)} (filled : Fills slots members)
    {member : String × Data} (inside : member ∈ members) :
    ∃ slot ∈ slots, member.1 ∈ slot.names := by
  induction filled with
  | done => cases inside
  | put known fits rest inductionHypothesis =>
      rcases List.mem_cons.1 inside with rfl | later
      · exact ⟨_, List.mem_cons_self, known⟩
      · obtain ⟨slot, present, named⟩ := inductionHypothesis later
        exact ⟨slot, List.mem_cons_of_mem _ present, named⟩
  | leave spare rest inductionHypothesis =>
      obtain ⟨slot, present, named⟩ := inductionHypothesis inside
      exact ⟨slot, List.mem_cons_of_mem _ present, named⟩

theorem Fills.unnamed {members : List (String × Data)} (filled : Fills slots members) {own : Slot}
    (apart : ∀ slot ∈ slots, ∀ name ∈ own.names, name ∉ slot.names) :
    ∀ member ∈ members, member.1 ∉ own.names := by
  intro member inside named
  obtain ⟨slot, present, again⟩ := filled.exists_slot inside
  exact apart slot present _ named again

/-- Each slot has its part alone among the members that fill the slots. -/
theorem Fills.exists_part {members : List (String × Data)} (filled : Fills slots members)
    (apart : Apart slots) : ∀ slot ∈ slots, ∃ part : Option Data,
      Data.under members slot.names = part.toList ∧ slot.Takes part := by
  induction filled with
  | done => exact fun slot inside => absurd inside List.not_mem_nil
  | @put own slots name data members known fits rest inductionHypothesis =>
      obtain ⟨fromOthers, apart⟩ := List.pairwise_cons.1 apart
      refine List.forall_mem_cons.2 ⟨⟨some data, ?_, fits⟩, fun slot inside => ?_⟩
      · rw [Data.under_cons, if_pos known, Data.under_eq_nil (rest.unnamed fromOthers)]
        rfl
      · rw [Data.under_cons, if_neg (fromOthers slot inside name known)]
        exact inductionHypothesis apart slot inside
  | @leave own slots members spare rest inductionHypothesis =>
      obtain ⟨fromOthers, apart⟩ := List.pairwise_cons.1 apart
      exact List.forall_mem_cons.2
        ⟨⟨none, Data.under_eq_nil (rest.unnamed fromOthers), spare⟩, inductionHypothesis apart⟩

/-- All parts are found if each slot finds its part. -/
theorem exists_parts_of_forall {members : List (String × Data)}
    (each : ∀ slot ∈ slots, ∃ part, Data.only? members slot.names = some part ∧ slot.Takes part) :
    ∃ parts, (slots.map names).mapM (Data.only? members) = some parts ∧
      List.Forall₂ Takes slots parts := by
  induction slots with
  | nil => exact ⟨[], rfl, .nil⟩
  | cons slot slots inductionHypothesis =>
      obtain ⟨⟨part, found, taken⟩, rest⟩ := List.forall_mem_cons.1 each
      obtain ⟨parts, all, allTaken⟩ := inductionHypothesis rest
      exact ⟨part :: parts, by simp [found, all], .cons taken allTaken⟩

theorem forall₂_replicate_none (spare : ∀ slot ∈ slots, slot.mayLack) :
    List.Forall₂ Takes slots (List.replicate slots.length none) := by
  induction slots with
  | nil => exact .nil
  | cons slot slots inductionHypothesis =>
      obtain ⟨first, rest⟩ := List.forall_mem_cons.1 spare
      exact .cons first (inductionHypothesis rest)

/-- A list that places the slots gives each slot its part. -/
theorem Places.exists_parts {items : List Data} (placed : Places slots items) :
    items.length ≤ slots.length ∧
      List.Forall₂ Takes slots
        (items.map some ++ List.replicate (slots.length - items.length) none) := by
  induction placed with
  | stop spare => exact ⟨Nat.zero_le _, forall₂_replicate_none spare⟩
  | next fits rest inductionHypothesis =>
      obtain ⟨short, each⟩ := inductionHypothesis
      refine ⟨Nat.succ_le_succ short, .cons fits ?_⟩
      rw [List.length_cons, List.length_cons, Nat.succ_sub_succ]
      exact each

/-- The members of a structure are found in each way in which it may be written. -/
theorem Holds.exists_parts {format : DataFormat} {data : Data} (held : Holds format slots data)
    (apart : Apart slots) :
    ∃ parts, data.members? format (slots.map names) = some parts ∧
      List.Forall₂ Takes slots parts := by
  cases held with
  | @table known strange members filled unnamed order =>
      rw [Data.members?]
      refine exists_parts_of_forall fun slot inside => ?_
      obtain ⟨part, alone, taken⟩ := filled.exists_part apart slot inside
      have others : Data.under strange slot.names = [] :=
        Data.under_eq_nil fun member present => unnamed member present slot inside
      refine ⟨part, Data.only?_of_perm order ?_, taken⟩
      rw [Data.under_append, alone, others, List.append_nil]
  | list positional placed =>
      obtain ⟨short, each⟩ := placed.exists_parts
      refine ⟨_, ?_, each⟩
      rw [Data.members?, List.length_map, positional, if_pos (by simpa using short)]

end Slot

/-! ### Records -/

/-- The text stands with quotes or without. -/
inductive Data.Spells (text : String) : Data → Prop
  | quoted : Spells text (.text text)
  | plain : Spells text (.plain text)

theorem Data.Spells.text? {text : String} {data : Data} (spelled : Data.Spells text data) :
    data.text? = some text := by
  cases spelled <;> rfl

/-- The spellings of a kind, one of which is its name in written records. -/
def Kind.spellings : Kind → List String
  | .text => ["text"]
  | .integer => ["integer"]
  | .nested => ["nested_record", "nested-record", "nestedRecord", "record"]
  | .other => ["other", "other-primitive", "other_primitive"]

/-- A name is read as a kind if it is one of its spellings. -/
theorem Kind.ofName?_eq_some_iff {kind : Kind} {name : String} :
    Kind.ofName? name = some kind ↔ name ∈ kind.spellings := by
  constructor
  · intro read
    rw [Kind.ofName?] at read
    split_ifs at read with text integer nested other <;> cases read
    · exact List.mem_singleton.2 text
    · exact List.mem_singleton.2 integer
    · exact List.contains_iff_mem.1 nested
    · exact List.contains_iff_mem.1 other
  · intro named
    have each : ∀ name ∈ kind.spellings, Kind.ofName? name = some kind := by
      cases kind <;> decide
    exact each name named

namespace Field

/-- The slots of a field; an empty type or tag may be left out. -/
def slots (field : Field) : List Slot :=
  [⟨["name"], Data.Spells field.name, False⟩,
    ⟨["kind"], fun data => ∃ name ∈ field.kind.spellings, Data.Spells name data, False⟩,
    ⟨["type"], Data.Spells field.typeName, field.typeName = ""⟩,
    ⟨["tag"], Data.Spells field.tag, field.tag = ""⟩]

def IsWritten (format : DataFormat) (field : Field) (data : Data) : Prop :=
  Slot.Holds format field.slots data

end Field

namespace Record

/-- The slots of a record, of which the fields go by two names. -/
def slots (format : DataFormat) (record : Record) : List Slot :=
  [⟨["name"], Data.Spells record.name, False⟩,
    ⟨["namespace"], Data.Spells record.namespaceName, record.namespaceName = ""⟩,
    ⟨["fields", "field"],
      fun data => ∃ items, data = .list items ∧
        List.Forall₂ (fun field item => field.IsWritten format item) record.fields items,
      record.fields = []⟩]

def IsWritten (format : DataFormat) (record : Record) (data : Data) : Prop :=
  Slot.Holds format (record.slots format) data

end Record

/-- A text that may lack where it is empty is read. -/
theorem orDefault_text? {text : String} {names : List String} {part : Option Data}
    (taken : Slot.Takes ⟨names, Data.Spells text, text = ""⟩ part) :
    Data.orDefault "" Data.text? part = some text := by
  cases part with
  | none => exact congrArg some taken.symm
  | some data => exact taken.text?

theorem Kind.ofData?_of_spells {format : DataFormat} {kind : Kind} {data : Data}
    (spelled : ∃ name ∈ kind.spellings, Data.Spells name data) :
    Kind.ofData? format data = some kind := by
  obtain ⟨name, named, quoted | plain⟩ := spelled <;>
    exact Kind.ofName?_eq_some_iff.2 named

variable {format : DataFormat}

theorem Field.apart_slots (field : Field) : Slot.Apart field.slots := by
  simp [Slot.Apart, Field.slots]

theorem Record.apart_slots (record : Record) : Slot.Apart (record.slots format) := by
  simp [Slot.Apart, Record.slots]

/-- A field is read from each of its writings. -/
theorem Field.ofData?_of_isWritten {field : Field} {data : Data}
    (written : field.IsWritten format data) : Field.ofData? format data = some field := by
  obtain ⟨parts, found, taken⟩ := written.exists_parts field.apart_slots
  have found : data.members? format [["name"], ["kind"], ["type"], ["tag"]] = some parts := found
  rw [Field.slots] at taken
  match parts, taken with
  | [some name, some kind, typeName, tag],
      .cons named (.cons ofKind (.cons typed (.cons tagged .nil))) =>
    rw [Field.ofData?, found]
    simp [Data.Spells.text? named, Kind.ofData?_of_spells ofKind, orDefault_text? typed,
      orDefault_text? tagged]

/-- A list of fields is read from writings of its fields. -/
theorem Field.mapM_ofData?_of_isWritten {fields : List Field} {items : List Data}
    (written : List.Forall₂ (fun field item => field.IsWritten format item) fields items) :
    items.mapM (Field.ofData? format) = some fields := by
  induction written with
  | nil => rfl
  | cons first _ inductionHypothesis =>
      simp [Field.ofData?_of_isWritten first, inductionHypothesis]

/-- A record is read from each of its writings. -/
theorem Record.ofData?_of_isWritten {record : Record} {data : Data}
    (written : record.IsWritten format data) : Record.ofData? format data = some record := by
  obtain ⟨parts, found, taken⟩ := written.exists_parts record.apart_slots
  have found : data.members? format [["name"], ["namespace"], ["fields", "field"]] =
    some parts := found
  rw [Record.slots] at taken
  match parts, taken with
  | [some name, namespaceName, fields], .cons named (.cons placed (.cons filled .nil)) =>
    rw [Record.ofData?, found]
    have listed : (Data.orDefault [] Data.list? fields).bind
        (fun items => items.mapM (Field.ofData? format)) = some record.fields := by
      cases fields with
      | none =>
          have empty : record.fields = [] := filled
          rw [empty]
          rfl
      | some data =>
          obtain ⟨items, rfl, each⟩ := filled
          exact Field.mapM_ofData?_of_isWritten each
    obtain ⟨items, listed, each⟩ := Option.bind_eq_some_iff.1 listed
    simp [Data.Spells.text? named, orDefault_text? placed, listed, each]

theorem Kind.serialized_mem_spellings (kind : Kind) : kind.serialized ∈ kind.spellings := by
  cases kind <;> decide

theorem Kind.display_mem_spellings (kind : Kind) : kind.display ∈ kind.spellings := by
  cases kind <;> decide

/-- The tree of a field is one of its writings. -/
theorem Field.isWritten_toData (field : Field) : field.IsWritten format field.toData := by
  refine .table (.put List.mem_cons_self .quoted (.put List.mem_cons_self
    ⟨_, field.kind.serialized_mem_spellings, .quoted⟩ (.put List.mem_cons_self .quoted
    (.put List.mem_cons_self .quoted .done)))) (List.forall_mem_nil _) ?_
  rw [List.append_nil]

/-- The tree of a record is one of its writings. -/
theorem Record.isWritten_toData (record : Record) : record.IsWritten format record.toData := by
  have fields : List.Forall₂ (fun field item => field.IsWritten format item) record.fields
      (record.fields.map Field.toData) := by
    rw [List.forall₂_map_right_iff, List.forall₂_same]
    exact fun field _ => field.isWritten_toData
  refine .table (.put List.mem_cons_self .quoted (.put List.mem_cons_self .quoted
    (.put List.mem_cons_self ⟨_, rfl, fields⟩ .done))) (List.forall_mem_nil _) ?_
  rw [List.append_nil]

/-- The fields of a record go by one name in each table. -/
theorem Record.ofData?_of_fieldsTwice {members : List (String × Data)} {first second : Data}
    (one : ("fields", first) ∈ members) (another : ("field", second) ∈ members) :
    Record.ofData? format (.table members) = none := by
  have twice : Data.only? members ["fields", "field"] = none :=
    Data.only?_eq_none one another (by simp) (by simp) (by simp)
  rw [Record.ofData?, Data.members?]
  simp [twice]

/-- The tree of a record nests three lists and tables. -/
theorem Record.nests_toData (record : Record) (depth : Nat) :
    Json.Nests (depth + 3) record.toData := by
  refine .table (List.forall_mem_cons.2 ⟨.text _, List.forall_mem_cons.2 ⟨.text _,
    List.forall_mem_singleton.2 (.list fun item inside => ?_)⟩⟩)
  obtain ⟨field, -, rfl⟩ := List.mem_map.1 inside
  refine .table fun member inside => ?_
  simp only [List.mem_cons, List.not_mem_nil, or_false] at inside
  rcases inside with rfl | rfl | rfl | rfl <;> exact .text _

/-- A record is read back from each way in which it may be written. -/
theorem records_survive_writing (format : DataFormat) (record : Record) :
    Record.ofData? format record.toData = some record ∧
    (Json.tree? (Json.compact record.toData)).bind (Record.ofData? .json) = some record ∧
    record.IsWritten format record.toData ∧
    (∀ data, record.IsWritten format data → Record.ofData? format data = some record) ∧
    (∀ members first second, ("fields", first) ∈ members → ("field", second) ∈ members →
      Record.ofData? format (.table members) = none) ∧
    ∀ kind : Kind, (∀ name, Kind.ofName? name = some kind ↔ name ∈ kind.spellings) ∧
      kind.serialized ∈ kind.spellings ∧ kind.display ∈ kind.spellings := by
  refine ⟨Record.ofData?_of_isWritten record.isWritten_toData, ?_, record.isWritten_toData,
    fun data => Record.ofData?_of_isWritten,
    fun members first second => Record.ofData?_of_fieldsTwice,
    fun kind => ⟨fun name => Kind.ofName?_eq_some_iff, kind.serialized_mem_spellings,
      kind.display_mem_spellings⟩⟩
  rw [Json.tree?_compact (record.nests_toData 124)]
  exact Record.ofData?_of_isWritten record.isWritten_toData

/-- A field may be a list or a table, and further members are skipped. -/
example : Record.ofData? .json (.table [("field", .list [.list [.text "id", .text "integer"],
      .table [("tag", .text "obj"), ("kind", .text "nested-record"), ("type", .text "Owner"),
        ("name", .text "owner")]]), ("since", .moment), ("name", .text "Lease")]) =
    some ⟨"Lease", "", [⟨"id", .integer, "", ""⟩, ⟨"owner", .nested, "Owner", "obj"⟩]⟩ := by
  decide

end FieldRules
