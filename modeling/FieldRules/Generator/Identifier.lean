import FieldRules.Unicode.Character

/-!
This file says how names are spelled as identifiers of Rust.
-/

namespace FieldRules.Identifier

/-- These words are identifiers only in their raw spelling. -/
def keywords : List String :=
  ["as", "break", "const", "continue", "else", "enum", "extern", "false", "fn", "for", "if",
    "impl", "in", "let", "loop", "match", "mod", "move", "mut", "pub", "ref", "return", "static",
    "struct", "trait", "true", "type", "unsafe", "use", "where", "while", "async", "await", "dyn",
    "abstract", "become", "box", "do", "final", "macro", "override", "priv", "typeof", "unsized",
    "virtual", "yield", "try", "gen"]

/-- These words are no identifiers in any spelling. -/
def unspeakable : List String :=
  ["_", "self", "Self", "super", "crate"]

/-- Letters, numbers and the low line make up a name, and no number starts one. -/
def hasNameForm : List Char → Bool
  | [] => false
  | first :: rest =>
      (first == '_' || Unicode.isAlphabetic first) &&
        rest.all fun c => c == '_' || Unicode.isAlphanumeric c

def spelling? (name : String) : Option String :=
  if !hasNameForm name.toList || unspeakable.contains name then none
  else if keywords.contains name then some ("r#" ++ name)
  else some name

end FieldRules.Identifier
