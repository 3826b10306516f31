import FieldRules.Record.Codec
import FieldRules.Report

/-!
This file writes messages and reports as trees of data and reads messages back.
-/

namespace FieldRules

def Message.toData (message : Message) : Data :=
  .table [("field", .text message.field), ("code", .text message.code),
    ("message", .text message.text)]

/-- All three members are texts, and a list may give them in their order. -/
def Message.ofData? (data : Data) : Option Message := do
  match ← data.members? .json [["field"], ["code"], ["message"]] with
  | [some field, some code, some text] => some ⟨← field.text?, ← code.text?, ← text.text?⟩
  | _ => none

/-- An outcome that holds no message is null. -/
def Outcome.ofData? : Data → Option Outcome
  | .null => some none
  | data => (Message.ofData? data).map some

def Report.toData (report : Report) : Data :=
  .table [("pass", .boolean report.pass), ("messages", .list (report.messages.map Message.toData))]

mutual

/-- A table with the member `some` or `box` holds another subject, and the text `ok` passes. -/
def Subject.ofData? : Data → Option Subject
  | .null => some .absent
  | .text value => if value = "ok" then some (.leaf (.ofOutcome none)) else none
  | .list items => (Subject.allOfData? items).map .vector
  | .table [("some", inner)] => (Subject.ofData? inner).map .present
  | .table [("box", inner)] => (Subject.ofData? inner).map .boxed
  | .table members =>
      (Message.ofData? (.table members)).map fun message => .leaf (.ofOutcome (some message))
  | _ => none

def Subject.allOfData? : List Data → Option (List Subject)
  | [] => some []
  | item :: items => do some ((← Subject.ofData? item) :: (← Subject.allOfData? items))

end

end FieldRules
