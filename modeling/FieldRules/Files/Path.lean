import FieldRules.Text.Pieces

/-!
This file takes paths apart and joins them. The parts of a path stand between slashes.
-/

namespace FieldRules.Path

def isAbsolute (path : String) : Bool :=
  path.toList.head? == some '/'

/-- A path that ends in a slash names a directory. -/
def endsInSlash (path : String) : Bool :=
  path.toList.getLast? == some '/'

/-- Slashes that follow each other count as one. -/
def parts (path : String) : List (List Char) :=
  (Text.pieces (· == '/') path.toList).filter fun part => !part.isEmpty

/-- The last part of a path, unless it is a step back. -/
def fileName? (path : String) : Option (List Char) :=
  ((parts path).filter (· != ['.'])).getLast?.filter (· != ['.', '.'])

/-- The text after the last point of a file name that does not begin the name. -/
def extension? (path : String) : Option String := do
  let (stem, ending) ← Text.cutAtLast? '.' (← fileName? path)
  if stem.isEmpty then none else some (String.ofList ending)

/-- A path inside a directory, unless the path is absolute. -/
def join (directory path : String) : String :=
  if isAbsolute path then path
  else if directory.isEmpty || endsInSlash directory then directory ++ path
  else directory ++ "/" ++ path

/-- The paths of the directories on the way to the given parts, the outermost one first. -/
def ancestors (base : String) : List (List Char) → List String
  | [] => []
  | [_] => []
  | part :: rest =>
      let inner := join base (String.ofList part)
      inner :: ancestors inner rest

/-- The directories above a path; a point at its end adds none. -/
def parents (path : String) : List String :=
  ancestors (if isAbsolute path then "/" else "") ((parts path).filter (· != ['.']))

end FieldRules.Path
