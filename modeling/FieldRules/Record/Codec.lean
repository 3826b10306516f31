import FieldRules.Data.Basic
import FieldRules.Record.Basic

/-!
This file writes records as trees of data and reads them back. A record may be written as a table of
members or, where the format allows it, as a list of its members in their order.
-/

namespace FieldRules

/-- The formats in which records are written. -/
inductive DataFormat where
  | json
  | toml
  | yaml
  deriving Repr, DecidableEq

/-- A list may stand for a structure in all formats but YAML. -/
def DataFormat.isPositional (format : DataFormat) : Bool :=
  format ≠ .yaml

/-- Neither quotes nor a mark matter where a text is expected. -/
def Data.text? : Data → Option String
  | .text value => some value
  | .plain value => some value
  | .marked _ inner => inner.text?
  | _ => none

/-- A value that is not written out at all stands for an empty list. -/
def Data.list? : Data → Option (List Data)
  | .list items => some items
  | .plain value => if value.isEmpty then some [] else none
  | .marked _ inner => inner.list?
  | _ => none

def Data.boolean? : Data → Option Bool
  | .boolean value => some value
  | _ => none

/-- The member of one of the given names; two such members are too many. -/
def Data.only? (members : List (String × Data)) (names : List String) : Option (Option Data) :=
  match members.filter fun member => names.contains member.1 with
  | [] => some none
  | [member] => some (some member.2)
  | _ => none

/-- The members of a structure by their names, or by place in a list. -/
def Data.members? (format : DataFormat) (names : List (List String)) :
    Data → Option (List (Option Data))
  | .table members => names.mapM (Data.only? members)
  | .plain value => if value.isEmpty then some (names.map fun _ => none) else none
  | .list items =>
      if format.isPositional && items.length ≤ names.length then
        some (items.map some ++ List.replicate (names.length - items.length) none)
      else none
  | .marked _ inner => inner.members? format names
  | _ => none

/-- A missing member has a default, and a member that is there must be read. -/
def Data.orDefault {Value : Type} (default : Value) (read : Data → Option Value) :
    Option Data → Option Value
  | none => some default
  | some data => read data

def Kind.serialized : Kind → String
  | .text => "text"
  | .integer => "integer"
  | .nested => "nested_record"
  | .other => "other"

def Kind.ofName? (name : String) : Option Kind :=
  if name = "text" then some .text
  else if name = "integer" then some .integer
  else if ["nested_record", "nested-record", "nestedRecord", "record"].contains name then
    some .nested
  else if ["other", "other-primitive", "other_primitive"].contains name then some .other
  else none

/-- The absence of a value where a name says all. -/
def Data.isVoid : Data → Bool
  | .null => true
  | .plain value => ["", "~", "null", "Null", "NULL"].contains value
  | _ => false

/-- A kind is its name, or the one member of a table in some formats. -/
def Kind.ofData? (format : DataFormat) : Data → Option Kind
  | .text name => Kind.ofName? name
  | .plain name => Kind.ofName? name
  | .marked mark inner => if inner.isVoid then Kind.ofName? mark else none
  | .table [(name, .null)] => if format = .json then Kind.ofName? name else none
  | .table [(name, .list [])] => if format = .toml then Kind.ofName? name else none
  | .table [(name, .table [])] => if format = .toml then Kind.ofName? name else none
  | _ => none

def Field.ofData? (format : DataFormat) (data : Data) : Option Field := do
  match ← data.members? format [["name"], ["kind"], ["type"], ["tag"]] with
  | [some name, some kind, typeName, tag] =>
      let name ← name.text?
      let kind ← Kind.ofData? format kind
      let typeName ← Data.orDefault "" Data.text? typeName
      let tag ← Data.orDefault "" Data.text? tag
      some ⟨name, kind, typeName, tag⟩
  | _ => none

def Record.ofData? (format : DataFormat) (data : Data) : Option Record := do
  match ← data.members? format [["name"], ["namespace"], ["fields", "field"]] with
  | [some name, namespaceName, fields] =>
      let name ← name.text?
      let namespaceName ← Data.orDefault "" Data.text? namespaceName
      let fields ← Data.orDefault [] Data.list? fields
      let fields ← fields.mapM (Field.ofData? format)
      some ⟨name, namespaceName, fields⟩
  | _ => none

def Field.toData (field : Field) : Data :=
  .table [("name", .text field.name), ("kind", .text field.kind.serialized),
    ("type", .text field.typeName), ("tag", .text field.tag)]

def Record.toData (record : Record) : Data :=
  .table [("name", .text record.name), ("namespace", .text record.namespaceName),
    ("fields", .list (record.fields.map Field.toData))]

end FieldRules
