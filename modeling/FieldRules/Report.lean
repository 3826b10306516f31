/-!
This file holds the messages of failed checks and the reports that collect them. A report fails as
soon as it holds one message, and it keeps its messages in the order in which they arrive.
-/

namespace FieldRules

/-- A message names a field and has a stable code and a text. -/
structure Message where
  field : String
  code : String
  text : String
  deriving Repr, DecidableEq

def Message.display (message : Message) : String :=
  message.field ++ ": " ++ message.text

/-- An outcome holds the message of a failed check, or nothing if the check passed. -/
abbrev Outcome := Option Message

/-- A report is the verdict on a record with the messages of its failed checks. -/
structure Report where
  pass : Bool
  messages : List Message
  deriving Repr, DecidableEq

namespace Report

def success : Report :=
  ⟨true, []⟩

/-- The default report is the one that passes. -/
instance : Inhabited Report :=
  ⟨success⟩

def failure (message : Message) : Report :=
  ⟨false, [message]⟩

def push (report : Report) : Outcome → Report
  | none => report
  | some message => ⟨false, report.messages ++ [message]⟩

def append (report other : Report) : Report :=
  ⟨report.pass && other.pass, report.messages ++ other.messages⟩

def extend (report : Report) (outcomes : List Outcome) : Report :=
  outcomes.foldl push report

def ofOutcome (outcome : Outcome) : Report :=
  success.push outcome

def ofOutcomes (outcomes : List Outcome) : Report :=
  success.extend outcomes

end Report

/-- A complaint lists the messages of a failed report under a line of context. -/
structure Complaint where
  context : String
  messages : List Message
  deriving Repr, DecidableEq

/-- The first occurrence of each text stays. -/
def firstSeen (texts : List String) : List String :=
  texts.foldl (fun seen text => if seen.contains text then seen else seen ++ [text]) []

def Complaint.codes (complaint : Complaint) : List String :=
  firstSeen (complaint.messages.map Message.code)

/-- An empty context gets no line. -/
def Complaint.display (complaint : Complaint) : String :=
  let lines := complaint.messages.map Message.display
  "\n".intercalate (if complaint.context.isEmpty then lines else complaint.context :: lines)

def Report.complaint? (report : Report) (context : String) : Option Complaint :=
  if report.pass then none else some ⟨context, report.messages⟩

/-- A report that passes is a success, and any other one is its complaint. -/
def Report.toExcept (report : Report) (context : String) : Except Complaint Unit :=
  if report.pass then .ok () else .error ⟨context, report.messages⟩

/-- A subject is a record with its report, or it holds further subjects. -/
inductive Subject where
  | leaf (report : Report)
  | borrowed (inner : Subject)
  | boxed (inner : Subject)
  | absent
  | present (inner : Subject)
  | slice (items : List Subject)
  | vector (items : List Subject)

mutual

/-- An absent value passes, and items are validated in their order. -/
def Subject.validate : Subject → Report
  | .leaf report => report
  | .borrowed inner => inner.validate
  | .boxed inner => inner.validate
  | .absent => .success
  | .present inner => inner.validate
  | .slice items => Subject.validateAll .success items
  | .vector items => Subject.validateAll .success items

def Subject.validateAll (report : Report) : List Subject → Report
  | [] => report
  | item :: items => Subject.validateAll (report.append item.validate) items

end

end FieldRules
