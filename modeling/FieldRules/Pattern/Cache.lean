import FieldRules.Pattern.Store

/-!
This file holds the bounded cache of compiled patterns. A lookup compiles a text that the cache does
not hold, and the cache may lose any entry between two lookups.
-/

namespace FieldRules.Pattern

/-- The cache keeps compiled patterns under their texts, the latest first. -/
abbrev Cache := List (String × Pattern)

namespace Cache

/-- The cache keeps at most this many patterns. -/
def capacity : Nat := 512

/-- A new entry replaces the one under its text or the oldest one. -/
def insert (cache : Cache) (text : String) (pattern : Pattern) : Cache :=
  ((text, pattern) :: cache.filter (·.1 != text)).take capacity

def store : Store Cache :=
  ⟨[], fun cache text => cache.lookup text, insert⟩

def compile? (cache : Cache) (text : String) : Option Pattern × Cache :=
  store.compile? cache text

/-- The caches that lookups from the empty cache and losses of entries lead to. -/
inductive Reached : Cache → Prop
  | empty : Reached []
  | lookup (cache : Cache) (text : String) (reached : Reached cache) :
      Reached (cache.compile? text).2
  | loss (cache kept : Cache) (reached : Reached cache) (part : kept.Sublist cache) :
      Reached kept

end Cache

end FieldRules.Pattern
