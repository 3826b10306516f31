import FieldRules.Text.Pieces

/-!
This file cuts a text into its lines.
-/

namespace FieldRules.Text

/-- A carriage return before a line break belongs to the break. -/
def dropReturn (line : List Char) : List Char :=
  if line.getLast? = some '\r' then line.dropLast else line

/-- The last line needs no break, and it keeps a carriage return at its end. -/
def linesOf : List (List Char) → List (List Char)
  | [] => []
  | [rest] => if rest.isEmpty then [] else [rest]
  | line :: others => dropReturn line :: linesOf others

def lines (text : String) : List String :=
  (linesOf (pieces (· == '\n') text.toList)).map String.ofList

end FieldRules.Text
