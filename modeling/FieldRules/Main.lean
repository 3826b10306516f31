import FieldRules.Command.Basic

/-!
The command line: it reads what a command needs from the disk, runs the command on these files and
writes what the command has changed.
-/

namespace FieldRules.Command

/-- Adds what stands at a path of the disk, if there is something. -/
def withPath (store : FileStore) (path : String) : IO FileStore := do
  match store.locate path with
  | .error _ => return store
  | .ok location =>
      try
        let contents ← IO.FS.readFile path
        return { store with files := FileStore.putFile location contents store.files }
      catch
        | .inappropriateType _ 21 _ =>
            return { store with directories := location :: store.directories }
        | _ => return store

/-- Adds what stands at the paths and at all directories on the way to them. -/
def withPaths (store : FileStore) (paths : List String) : IO FileStore :=
  (paths.flatMap fun path => Path.parents path ++ [path]).foldlM withPath store

def readEnvironment : IO (List Variable) := do
  try
    return Variable.ofEnvironment (← IO.FS.readFile "/proc/self/environ")
  catch _ => return []

/-- The part of the disk that a command line is about. -/
def readStore (environment : List Variable) (words : List String) : IO FileStore :=
  match Invocation.ofWords words with
  | .error _ => return .empty
  | .ok invocation => do
      let store ← withPaths .empty invocation.paths
      withPaths store (invocation.targets store environment)

def writeStore (before after : FileStore) : IO Unit := do
  for directory in before.newDirectories after do
    IO.FS.createDirAll directory.path
  for (location, contents) in before.changedFiles after do
    IO.FS.writeFile location.path contents

/-- Runs the command line and returns its exit code. -/
def runWords (words : List String) : IO UInt32 := do
  let environment ← readEnvironment
  let store ← readStore environment words
  let conclusion := run store environment words
  writeStore store conclusion.store
  IO.print conclusion.output
  match conclusion.failure with
  | some failure => IO.eprintln ("error: " ++ failure.message)
  | none => if conclusion.code = 2 then IO.eprint helpText
  return UInt32.ofNat conclusion.code

end FieldRules.Command

def main (words : List String) : IO UInt32 :=
  FieldRules.Command.runWords words
