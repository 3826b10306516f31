import FieldRules.Data.Basic

/-!
This file builds the tables of TOML texts. A table may be written in parts, and a part that would
write a finished table again is refused.
-/

namespace FieldRules.Toml

/-- A table comes from its header, an inner header or dotted keys. -/
inductive Origin where
  | header
  | implied
  | dotted
  deriving DecidableEq

inductive Node where
  /-- A value is finished, also if it is a list or a table. -/
  | value (data : Data)
  | table (origin : Origin) (members : List (String × Node))
  /-- The tables of a list, the last one first. -/
  | tables (items : List (List (String × Node)))

abbrev Members := List (String × Node)

/-- A new member stands at the end, and one that is there keeps its place. -/
def setMember (name : String) (node : Node) : Members → Members
  | [] => [(name, node)]
  | (other, old) :: rest =>
      if other = name then (name, node) :: rest else (other, old) :: setMember name node rest

/-- This function changes the table at the end of a path and adds missing ones. -/
def update? (dotted : Bool) (change : Origin → Members → Option Members) :
    List String → Origin → Members → Option Members
  | [], origin, members => change origin members
  | key :: path, _, members =>
      match members.lookup key with
      | none =>
          let origin := if dotted then Origin.dotted else .implied
          (update? dotted change path origin []).map fun inner =>
            setMember key (.table origin inner) members
      | some (.value _) => none
      | some (.table origin inner) =>
          if dotted && origin = .header then none
          else
            (update? dotted change path origin inner).map fun inner =>
              setMember key (.table origin inner) members
      | some (.tables []) => none
      | some (.tables (last :: items)) =>
          (update? dotted change path .header last).map fun last =>
            setMember key (.tables (last :: items)) members

/-- An assignment gives a value to the name at the end of a path. -/
structure Assignment where
  path : List String
  name : String
  value : Data

/-- Dotted keys add only to tables of dotted keys, and no name is assigned twice. -/
def Assignment.insert? (assignment : Assignment) (members : Members) : Option Members :=
  update? true
    (fun origin inner =>
      if (origin == .dotted) == assignment.path.isEmpty then none
      else
        match inner.lookup assignment.name with
        | some _ => none
        | none => some (setMember assignment.name (.value assignment.value) inner))
    assignment.path .header members

def insertAll? : List Assignment → Members → Option Members
  | [], members => some members
  | assignment :: assignments, members => do
      insertAll? assignments (← assignment.insert? members)

/-- A section holds the assignments under a header. -/
structure Section where
  isItem : Bool
  path : List String
  name : String
  assignments : List Assignment

/-- A header may come after those of inner tables, and only once. -/
def Section.insert? (part : Section) (members : Members) : Option Members :=
  update? false
    (fun _ outer =>
      if part.isItem then do
        let item ← insertAll? part.assignments []
        match outer.lookup part.name with
        | none => some (setMember part.name (.tables [item]) outer)
        | some (.tables items) => some (setMember part.name (.tables (item :: items)) outer)
        | some _ => none
      else do
        let inner ←
          match outer.lookup part.name with
          | none => some []
          | some (.table .implied inner) => some inner
          | some _ => none
        let inner ← insertAll? part.assignments inner
        some (setMember part.name (.table .header inner) outer))
    part.path .header members

def insertSections? : List Section → Members → Option Members
  | [], members => some members
  | part :: parts, members => do insertSections? parts (← part.insert? members)

mutual

def Node.toData : Node → Data
  | .value data => data
  | .table _ members => .table (membersToData members)
  | .tables items => .list (itemsToData items).reverse

def membersToData : Members → List (String × Data)
  | [] => []
  | (name, node) :: members => (name, node.toData) :: membersToData members

def itemsToData : List Members → List Data
  | [] => []
  | item :: items => .table (membersToData item) :: itemsToData items

end

end FieldRules.Toml
