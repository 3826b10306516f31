/-!
This file holds the trees that the data formats write: scalars, lists and tables of members.
-/

namespace FieldRules

/-- A tree of data; members of tables have an order and may repeat. -/
inductive Data where
  | null
  | boolean (value : Bool)
  | integer (value : Int)
  /-- A number with a fraction or an exponent, or one too great for 64 bits. -/
  | float
  | text (value : String)
  /-- A scalar without quotes, whose type its reader chooses. -/
  | plain (value : String)
  /-- A date or a time. -/
  | moment
  /-- A scalar that has the right form and no value. -/
  | unreadable
  /-- A value under a mark that names its type. -/
  | marked (mark : String) (inner : Data)
  | list (items : List Data)
  | table (members : List (String × Data))
  deriving Repr, Inhabited

namespace Data

/-- The last member of a name counts. -/
def find? (members : List (String × Data)) (name : String) : Option Data :=
  (members.reverse.find? fun member => member.1 == name).map Prod.snd

def member? (data : Data) (name : String) : Option Data :=
  match data with
  | .table members => find? members name
  | _ => none

/-- The value under all marks. -/
def unmarked : Data → Data
  | .marked _ inner => inner.unmarked
  | data => data

mutual

def isReadable : Data → Bool
  | .unreadable => false
  | .marked _ inner => inner.isReadable
  | .list items => areReadable items
  | .table members => membersAreReadable members
  | _ => true

def areReadable : List Data → Bool
  | [] => true
  | item :: items => item.isReadable && areReadable items

def membersAreReadable : List (String × Data) → Bool
  | [] => true
  | (_, value) :: members => value.isReadable && membersAreReadable members

end

mutual

/-- In a settled tree each table has one member of each name, the last one written. -/
def settled : Data → Data
  | .marked mark inner => .marked mark inner.settled
  | .list items => .list (settledAll items)
  | .table members => .table (settledMembers members)
  | data => data

def settledAll : List Data → List Data
  | [] => []
  | item :: items => item.settled :: settledAll items

def settledMembers : List (String × Data) → List (String × Data)
  | [] => []
  | (name, value) :: members =>
      let others := settledMembers members
      if others.any (·.1 == name) then others else (name, value.settled) :: others

end

end Data

end FieldRules
