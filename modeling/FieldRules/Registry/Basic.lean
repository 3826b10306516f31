import FieldRules.Registry.FieldCheck
import FieldRules.Registry.Keyword
import FieldRules.Registry.RuleError
import FieldRules.Tag.Rule
import FieldRules.Text.Quoted

/-!
This file holds registries. A registry says what a rule means on a field of a kind, and it resolves
rules to checks.
-/

namespace FieldRules

/-- A declaration is a rule on a field of a record, with its keyword. -/
structure Declaration where
  record : Record
  field : Field
  keyword : Keyword
  rule : Rule

namespace Declaration

def argument (declaration : Declaration) : Option String :=
  declaration.rule.argument

/-- An argument that is not there is read as the empty text. -/
def argumentText (declaration : Declaration) : String :=
  declaration.argument.getD ""

/-- The field of the declaration has the fault. -/
def blame (declaration : Declaration) (fault : RuleFault) : RuleError :=
  ⟨declaration.field.name, fault⟩

end Declaration

/-- A resolver turns the declarations of one keyword and kind into checks. -/
abbrev Resolver := Declaration → Except RuleError Resolution

/-- A registry is a table of resolvers, with one row for each pair. -/
structure Registry where
  rows : List ((Keyword × Kind) × Resolver)
  distinct : (rows.map Prod.fst).Nodup

namespace Registry

def empty : Registry :=
  ⟨[], .nil⟩

/-- The pairs of a keyword and a kind that have a resolver. -/
def pairs (registry : Registry) : List (Keyword × Kind) :=
  registry.rows.map Prod.fst

def resolver? (registry : Registry) (keyword : Keyword) (kind : Kind) : Option Resolver :=
  registry.rows.lookup (keyword, kind)

/-- The table without the row of the keyword and the kind. -/
def drop (registry : Registry) (keyword : Keyword) (kind : Kind) : Registry where
  rows := registry.rows.filter fun row => row.1 != (keyword, kind)
  distinct := registry.distinct.sublist (List.filter_sublist.map _)

/-- The table with the resolver in the row of the keyword and the kind. -/
def put (registry : Registry) (keyword : Keyword) (kind : Kind) (resolver : Resolver) :
    Registry where
  rows := ((keyword, kind), resolver) :: (registry.drop keyword kind).rows
  distinct := by
    refine List.nodup_cons.2 ⟨fun again => ?_, (registry.drop keyword kind).distinct⟩
    obtain ⟨row, member, same⟩ := List.mem_map.1 again
    simpa [same] using (List.mem_filter.1 member).2

/-- The answer has the resolver that was there before. -/
def register (registry : Registry) (keyword : Keyword) (kind : Kind) (resolver : Resolver) :
    Option Resolver × Registry :=
  (registry.resolver? keyword kind, registry.put keyword kind resolver)

/-- The resolver that is taken away comes first in the answer. -/
def unregister (registry : Registry) (keyword : Keyword) (kind : Kind) :
    Option Resolver × Registry :=
  (registry.resolver? keyword kind, registry.drop keyword kind)

def supports (registry : Registry) (keyword : Keyword) (kind : Kind) : Bool :=
  registry.pairs.contains (keyword, kind)

def size (registry : Registry) : Nat :=
  registry.rows.length

def isEmpty (registry : Registry) : Bool :=
  registry.rows.isEmpty

/-- A pair is shown as its keyword and its kind, with a colon between them. -/
def entry (pair : Keyword × Kind) : String :=
  pair.1.text ++ ":" ++ pair.2.display

/-- The listing is sorted by the texts of its entries. -/
def entries (registry : Registry) : List String :=
  (registry.pairs.map entry).mergeSort fun first second => first ≤ second

def display (registry : Registry) : String :=
  "RuleRegistry \x7b rules: [" ++ ", ".intercalate (registry.entries.map Text.quoted) ++ "] \x7d"

/-- A resolver sees a declaration only if the argument fits the keyword. -/
def resolveKeyword (registry : Registry) (declaration : Declaration) :
    Except RuleError Resolution :=
  let spelling := declaration.rule.keyword
  match registry.resolver? declaration.keyword declaration.field.kind with
  | none => .error (declaration.blame (.unsupportedKind spelling declaration.field.kind))
  | some resolver =>
      match declaration.keyword.takesArgument, declaration.argument with
      | true, none => .error (declaration.blame (.missingArgument spelling))
      | false, some argument => .error (declaration.blame (.unexpectedArgument spelling argument))
      | _, _ => resolver declaration

def resolve (registry : Registry) (record : Record) (field : Field) (rule : Rule) :
    Except RuleError Resolution :=
  match Keyword.ofText? rule.keyword with
  | none => .error ⟨field.name, .unknownKeyword rule.keyword field.kind⟩
  | some keyword => registry.resolveKeyword ⟨record, field, keyword, rule⟩

end Registry

end FieldRules
