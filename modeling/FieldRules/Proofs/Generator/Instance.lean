import FieldRules.Check
import FieldRules.Data.Basic
import FieldRules.Proofs.Data.Member
import FieldRules.Proofs.Generator.Call
import FieldRules.Record.Basic

/-!
This file runs the calls of generated validators on live values. A value of a record knows its type,
and the body that runs on it is that of its type. Data that have the declared kinds are those of some
live value.
-/

namespace FieldRules.Emitted

open Text

/-- A live value as generated code sees it; an optional record may be absent. -/
inductive Value where
  | text (value : String)
  | integer (value : Int)
  | absent
  | record (typeName : String) (members : List (String × Value))
  | other (data : Data)

abbrev Members := List (String × Value)

namespace Value

def find? (members : Members) (name : String) : Option Value :=
  (members.reverse.find? fun member => member.1 == name).map Prod.snd

mutual

/-- The data of a value, in which an absent record is null. -/
def toData : Value → Data
  | .text value => .text value
  | .integer value => .integer value
  | .absent => .null
  | .record _ members => .table (toTable members)
  | .other data => data

def toTable : Members → List (String × Data)
  | [] => []
  | (name, value) :: members => (name, value.toData) :: toTable members

end

theorem toTable_eq_map (members : Members) :
    toTable members = members.map fun member => (member.1, member.2.toData) := by
  induction members with
  | nil => rfl
  | cons member members inductionHypothesis =>
      rw [toTable, inductionHypothesis, List.map_cons]

/-- The data of a record have the data of its members. -/
theorem member?_toTable (members : Members) (name : String) :
    (Data.table (toTable members)).member? name = (find? members name).map toData := by
  rw [Data.member?, Data.find?, find?, toTable_eq_map, ← List.map_reverse, List.find?_map,
    Option.map_map, Option.map_map]
  rfl

/-- A value fits a field by its kind, and a record by its fields. -/
inductive Fits (schema : Schema) : Field → Value → Prop
  | text {field : Field} (kind : field.kind = .text) (value : String) : Fits schema field (.text value)
  | integer {field : Field} (kind : field.kind = .integer) (value : Int)
      (word : (IntegerRange.eitherSign 64).contains value = true) :
      Fits schema field (.integer value)
  | absent {field : Field} (kind : field.kind = .nested) : Fits schema field .absent
  | record {field : Field} (kind : field.kind = .nested) {nested : Record}
      (found : schema.record? field.typeName = some nested) (members : Members)
      (present : ∀ inner ∈ nested.fields, (find? members inner.name).isSome = true)
      (fits : ∀ inner ∈ nested.fields, ∀ value, find? members inner.name = some value →
        Fits schema inner value) :
      Fits schema field (.record field.typeName members)
  | unknown {field : Field} (kind : field.kind = .nested)
      (missing : schema.record? field.typeName = none) (members : Members) :
      Fits schema field (.record field.typeName members)
  | other {field : Field} (kind : field.kind = .other) (data : Data) :
      Fits schema field (.other data)

end Value

/-- The members fit a record if each field of the record has a value that fits. -/
def MembersFit (schema : Schema) (record : Record) (members : Members) : Prop :=
  ∀ field ∈ record.fields, ∃ value, Value.find? members field.name = some value ∧
    Value.Fits schema field value

/-! ### Data that fit -/

/-- Data fit a field as declared, and a table by the fields of its record. -/
inductive DataFit (schema : Schema) : Field → Data → Prop
  | text {field : Field} (kind : field.kind = .text) (value : String) :
      DataFit schema field (.text value)
  | integer {field : Field} (kind : field.kind = .integer) (value : Int)
      (word : (IntegerRange.eitherSign 64).contains value = true) :
      DataFit schema field (.integer value)
  | absent {field : Field} (kind : field.kind = .nested) : DataFit schema field .null
  | table {field : Field} (kind : field.kind = .nested) (table : List (String × Data))
      (present : ∀ nested, schema.record? field.typeName = some nested →
        ∀ inner ∈ nested.fields, ((Data.table table).member? inner.name).isSome = true)
      (fit : ∀ nested, schema.record? field.typeName = some nested →
        ∀ inner ∈ nested.fields, ∀ data, (Data.table table).member? inner.name = some data →
          DataFit schema inner data) :
      DataFit schema field (.table table)
  | other {field : Field} (kind : field.kind = .other) (data : Data) : DataFit schema field data

/-- No two fields of a record have one name. -/
def DistinctFields (record : Record) : Prop :=
  ∀ field ∈ record.fields, ∀ other ∈ record.fields, field.name = other.name → field = other

/-- A table in which all fields find values is that of members that fit. -/
theorem exists_members {schema : Schema} {record : Record} (distinct : DistinctFields record)
    {table : List (String × Data)}
    (typed : ∀ field ∈ record.fields, ∃ value : Value,
      (Data.table table).member? field.name = some value.toData ∧ Value.Fits schema field value) :
    ∃ members, Value.toTable members = table ∧ MembersFit schema record members := by
  -- An entry that another one of its name hides may have any value, as no field finds it.
  have readable : ∀ entry : String × Data, ∃ value : Value, value.toData = entry.2 ∧
      ∀ field ∈ record.fields, field.name = entry.1 →
        (Data.table table).member? field.name = some entry.2 → Value.Fits schema field value := by
    intro entry
    by_cases visible : ∃ field ∈ record.fields, field.name = entry.1 ∧
        (Data.table table).member? field.name = some entry.2
    · obtain ⟨field, member, named, present⟩ := visible
      obtain ⟨value, found, fits⟩ := typed field member
      refine ⟨value, Option.some.inj (found.symm.trans present), ?_⟩
      intro other otherMember otherNamed _
      rwa [distinct other otherMember field member (otherNamed.trans named.symm)]
    · refine ⟨.other entry.2, by rw [Value.toData], ?_⟩
      intro field member named present
      exact absurd ⟨field, member, named, present⟩ visible
  choose read same fits using readable
  refine ⟨table.map fun entry => (entry.1, read entry), ?_, ?_⟩
  · rw [Value.toTable_eq_map, List.map_map]
    exact (List.map_congr_left fun entry _ => by simp [same]).trans (List.map_id table)
  · intro field member
    obtain ⟨value, present, -⟩ := typed field member
    obtain ⟨entry, sought, holds⟩ := Option.map_eq_some_iff.1 present
    have named : entry.1 = field.name := by simpa using List.find?_some sought
    refine ⟨read entry, ?_, fits entry field member named.symm (holds ▸ present)⟩
    rw [Value.find?, ← List.map_reverse, List.find?_map, Option.map_map]
    exact Option.map_eq_some_iff.2 ⟨entry, sought, rfl⟩

/-- Data that fit a field are those of a value that fits it. -/
theorem exists_value {schema : Schema} (distinct : ∀ record ∈ schema.records, DistinctFields record)
    {field : Field} {data : Data} (fit : DataFit schema field data) :
    ∃ value : Value, value.toData = data ∧ Value.Fits schema field value := by
  induction fit with
  | text kind value => exact ⟨.text value, by rw [Value.toData], .text kind value⟩
  | integer kind value word =>
      exact ⟨.integer value, by rw [Value.toData], .integer kind value word⟩
  | absent kind => exact ⟨.absent, by rw [Value.toData], .absent kind⟩
  | other kind data => exact ⟨.other data, by rw [Value.toData], .other kind data⟩
  | @table field kind table present _ inductionHypothesis =>
      cases found : schema.record? field.typeName with
      | none =>
          obtain ⟨members, rfl, -⟩ : ∃ members, Value.toTable members = table ∧
              MembersFit schema ⟨"", "", []⟩ members :=
            exists_members (by simp [DistinctFields]) (by simp)
          exact ⟨.record field.typeName members, by rw [Value.toData], .unknown kind found members⟩
      | some nested =>
          have typed : ∀ inner ∈ nested.fields, ∃ value : Value,
              (Data.table table).member? inner.name = some value.toData ∧
                Value.Fits schema inner value := by
            intro inner member
            obtain ⟨data, holds⟩ := Option.isSome_iff_exists.1 (present nested found inner member)
            obtain ⟨value, rfl, fits⟩ := inductionHypothesis nested found inner member data holds
            exact ⟨value, holds, fits⟩
          obtain ⟨members, rfl, fit⟩ :=
            exists_members (distinct nested (List.mem_of_find?_eq_some found)) typed
          refine ⟨.record field.typeName members, by rw [Value.toData],
            .record kind found members ?_ ?_⟩
          · intro inner member
            obtain ⟨value, found, -⟩ := fit inner member
            rw [found, Option.isSome_some]
          · intro inner member value sought
            obtain ⟨other, found, fits⟩ := fit inner member
            cases sought.symm.trans found
            exact fits

/-- A table in which all fields have fitting data is that of fitting members. -/
theorem membersFit_of_dataFit {schema : Schema}
    (distinct : ∀ record ∈ schema.records, DistinctFields record) {record : Record}
    (known : record ∈ schema.records) {table : List (String × Data)}
    (fit : ∀ field ∈ record.fields, ∃ data, (Data.table table).member? field.name = some data ∧
      DataFit schema field data) :
    ∃ members, Value.toTable members = table ∧ MembersFit schema record members := by
  refine exists_members (distinct record known) fun field member => ?_
  obtain ⟨data, present, fit⟩ := fit field member
  obtain ⟨value, rfl, fits⟩ := exists_value distinct fit
  exact ⟨value, present, fits⟩

/-! ### Checks -/

namespace Argument

/-- A text is passed by reference. -/
def text? (members : Members) : Argument → Option String
  | .text value => some value
  | .borrowed field =>
      match Value.find? members field with
      | some (.text value) => some value
      | _ => none
  | _ => none

/-- An integer is passed by value, and a literal fits in a word of either sign. -/
def integer? (members : Members) : Argument → Option Int
  | .number value => if (IntegerRange.eitherSign 64).contains value then some value else none
  | .copied field =>
      match Value.find? members field with
      | some (.integer value) => some value
      | _ => none
  | _ => none

/-- A length fits in a word without a sign. -/
def length? : Argument → Option Nat
  | .number value => if (IntegerRange.unsigned 64).contains value then some value.toNat else none
  | _ => none

/-- A reference to a field of any type. -/
def value? (members : Members) : Argument → Option Value
  | .borrowed field => Value.find? members field
  | _ => none

end Argument

/-- Two values of one type compare, and values of two types do not. -/
def equality? (field other : String) : Value → Value → Option Outcome
  | .text input, .text sibling => some (Check.equalTo field other input sibling)
  | .integer input, .integer sibling => some (Check.equalTo field other input sibling)
  | _, _ => none

/-- The checks of the library by their names, on arguments of their types. -/
def outcome? (members : Members) (cache : Pattern.Cache) (function : String)
    (arguments : List Argument) : Option (Outcome × Pattern.Cache) :=
  match function, arguments with
  | "is_not_empty", [field, input] => do
      some (Check.notEmpty (← field.text? members) (← input.text? members), cache)
  | "is_email", [field, input] => do
      some (Check.email (← field.text? members) (← input.text? members), cache)
  | "is_url", [field, input] => do
      some (Check.url (← field.text? members) (← input.text? members), cache)
  | "is_ip", [field, input] => do
      some (Check.ip (← field.text? members) (← input.text? members), cache)
  | "satisfies_regex", [field, input, pattern] => do
      some (Check.satisfiesFrom cache (← field.text? members) (← input.text? members)
        (← pattern.text? members))
  | "is_length_greater_than", [field, input, bound] => do
      some (Check.longerThan (← field.text? members) (← input.text? members) (← bound.length?), cache)
  | "is_length_less_than", [field, input, bound] => do
      some (Check.shorterThan (← field.text? members) (← input.text? members) (← bound.length?), cache)
  | "is_greater_than", [field, input, bound] => do
      some (Check.quantityGreaterThan (← field.text? members) (.integer (← input.integer? members))
        (.integer (← bound.integer? members)), cache)
  | "is_less_than", [field, input, bound] => do
      some (Check.quantityLessThan (← field.text? members) (.integer (← input.integer? members))
        (.integer (← bound.integer? members)), cache)
  | "is_equal_to", [field, other, input, sibling] => do
      some (← equality? (← field.text? members) (← other.text? members) (← input.value? members)
        (← sibling.value? members), cache)
  | _, _ => none

/-! ### Bodies -/

/-- The calls of the body of each record type. -/
abbrev Bodies := String → Option (List Call)

mutual

/-- An absent record passes, and another one runs the body of its type. -/
def Value.validate (bodies : Bodies) (value : Value) (cache : Pattern.Cache) :
    Option (Report × Pattern.Cache) :=
  match value with
  | .absent => some (.success, cache)
  | .record typeName members =>
      match bodies typeName with
      | none => none
      | some calls => runCalls bodies members calls .success cache
  | _ => none
termination_by (sizeOf value, 0)

/-- The calls add to the result one after the other. -/
def runCalls (bodies : Bodies) (members : Members) (calls : List Call) (result : Report)
    (cache : Pattern.Cache) : Option (Report × Pattern.Cache) :=
  match calls with
  | [] => some (result, cache)
  | .check function arguments :: calls =>
      match outcome? members cache function arguments with
      | none => none
      | some (outcome, cache) => runCalls bodies members calls (result.push outcome) cache
  | .validate field :: calls =>
      match _found : Value.find? members field with
      | none => none
      | some value =>
          match value.validate bodies cache with
          | none => none
          | some (report, cache) => runCalls bodies members calls (result.append report) cache
termination_by (sizeOf members, calls.length + 1)
decreasing_by
  · exact .right _ (by simp)
  · exact .left _ _ (sizeOf_lastMember _found)
  · exact .right _ (by simp)

end

end FieldRules.Emitted
