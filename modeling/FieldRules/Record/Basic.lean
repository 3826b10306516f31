import FieldRules.Text.Blank

/-!
This file holds records as they are declared: their fields with a kind, a type name and a tag, and
the schema that collects them.
-/

namespace FieldRules

/-- The kind of a field says which rules and which values it takes. -/
inductive Kind where
  | text
  | integer
  | nested
  | other
  deriving Repr, DecidableEq

def Kind.display : Kind → String
  | .text => "text"
  | .integer => "integer"
  | .nested => "nested-record"
  | .other => "other-primitive"

/-- The type name of a nested field names the record into which it descends. -/
structure Field where
  name : String
  kind : Kind
  typeName : String
  tag : String
  deriving Repr, DecidableEq

def Field.isNested (field : Field) : Bool :=
  field.kind == .nested

/-- A blank tag asks for nothing. -/
def Field.isTagged (field : Field) : Bool :=
  !(Text.trim field.tag.toList).isEmpty

structure Record where
  name : String
  namespaceName : String
  fields : List Field
  deriving Repr, DecidableEq

/-- The first field of a name counts. -/
def Record.field? (record : Record) (name : String) : Option Field :=
  record.fields.find? fun field => field.name == name

def Record.hasTags (record : Record) : Bool :=
  record.fields.any Field.isTagged

/-- A schema keeps all records in the order of their declaration. -/
structure Schema where
  records : List Record
  deriving Repr, DecidableEq

def Schema.empty : Schema :=
  ⟨[]⟩

/-- The first record of a name counts. -/
def Schema.record? (schema : Schema) (name : String) : Option Record :=
  schema.records.find? fun record => record.name == name

def Schema.hasTags (schema : Schema) : Bool :=
  schema.records.any Record.hasTags

end FieldRules
