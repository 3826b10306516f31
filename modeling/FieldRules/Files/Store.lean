import FieldRules.Files.Path

/-!
This file holds file stores. A store is the tree of files and directories around the working
directory, and every operation names them by paths.
-/

namespace FieldRules

/-- The reasons for which a store refuses an operation. -/
inductive FileFault where
  | notFound
  | exists
  | notDirectory
  | isDirectory
  | nameTooLong
  | nulInName
  deriving Repr, DecidableEq

def FileFault.message : FileFault → String
  | .notFound => "No such file or directory (os error 2)"
  | .exists => "File exists (os error 17)"
  | .notDirectory => "Not a directory (os error 20)"
  | .isDirectory => "Is a directory (os error 21)"
  | .nameTooLong => "File name too long (os error 36)"
  | .nulInName => "file name contained an unexpected NUL byte"

/-- The names on the way; a first name `/` is the root. -/
abbrev Location := List String

namespace Location

def root : Location :=
  ["/"]

/-- The directories above the working directory, the root and the working directory itself. -/
def isFixed (location : Location) : Bool :=
  location == root || location.all (· == "..")

def parent (location : Location) : Location :=
  if location = root then root
  else if location.all (· == "..") then location ++ [".."]
  else location.dropLast

def path (location : Location) : String :=
  "/".intercalate location

/-- The location lies in the working directory. -/
def isInside (location : Location) : Bool :=
  location.head? != some "/" && location.head? != some ".."

end Location

structure FileStore where
  files : List (Location × String)
  directories : List Location
  deriving Repr

namespace FileStore

def empty : FileStore :=
  ⟨[], []⟩

def file? (store : FileStore) (location : Location) : Option String :=
  store.files.lookup location

def hasDirectory (store : FileStore) (location : Location) : Bool :=
  location.isFixed || store.directories.contains location

/-- A name has at most 255 bytes. -/
def isLongName (name : List Char) : Bool :=
  255 < (String.ofList name).utf8ByteSize

/-- All parts but the last one have to be there. -/
def walk (store : FileStore) (here : Location) : List (List Char) → Except FileFault Location
  | [] => .ok here
  | part :: rest =>
      if store.hasDirectory here then
        if part = ['.'] then store.walk here rest
        else if part = ['.', '.'] then store.walk here.parent rest
        else if isLongName part then .error .nameTooLong
        else store.walk (here ++ [String.ofList part]) rest
      else if (store.file? here).isSome then .error .notDirectory
      else .error .notFound

/-- The place that a path names, whether or not there is something in it. -/
def locate (store : FileStore) (path : String) : Except FileFault Location :=
  if path.toList.contains '\x00' then .error .nulInName
  else if 4095 < path.utf8ByteSize then .error .nameTooLong
  else if path.isEmpty then .error .notFound
  else store.walk (if Path.isAbsolute path then .root else []) (Path.parts path)

/-- The contents of a file. -/
def read (store : FileStore) (path : String) : Except FileFault String :=
  match store.locate path with
  | .error fault => .error fault
  | .ok location =>
      if store.hasDirectory location then .error .isDirectory
      else
        match store.file? location with
        | none => .error .notFound
        | some contents => if Path.endsInSlash path then .error .notDirectory else .ok contents

def isFile (store : FileStore) (path : String) : Bool :=
  (store.read path).toOption.isSome

def isDirectory (store : FileStore) (path : String) : Bool :=
  match store.locate path with
  | .error _ => false
  | .ok location => store.hasDirectory location

/-- A file that is there gets new contents and keeps its place in the list. -/
def putFile (location : Location) (contents : String) :
    List (Location × String) → List (Location × String)
  | [] => [(location, contents)]
  | (other, old) :: rest =>
      if other = location then (location, contents) :: rest
      else (other, old) :: putFile location contents rest

/-- The directory of a written file has to be there. -/
def write (store : FileStore) (path contents : String) : Except FileFault FileStore :=
  match store.locate path with
  | .error fault => .error fault
  | .ok location =>
      if store.hasDirectory location || Path.endsInSlash path then .error .isDirectory
      else .ok { store with files := putFile location contents store.files }

def createDirectory (store : FileStore) (path : String) : Except FileFault FileStore :=
  match store.locate path with
  | .error fault => .error fault
  | .ok location =>
      if store.hasDirectory location || (store.file? location).isSome then .error .exists
      else .ok { store with directories := location :: store.directories }

/-- A directory that is there is left as it is. -/
def ensureDirectory (store : FileStore) (path : String) : Except FileFault FileStore :=
  if store.isDirectory path then .ok store else store.createDirectory path

def ensureDirectories (store : FileStore) : List String → Except FileFault FileStore
  | [] => .ok store
  | path :: paths =>
      match store.ensureDirectory path with
      | .error fault => .error fault
      | .ok store => store.ensureDirectories paths

/-- This function creates a directory and all directories above it. -/
def createDirectories (store : FileStore) (path : String) : Except FileFault FileStore :=
  match store.ensureDirectory path with
  | .error .notFound => store.ensureDirectories (Path.parents path ++ [path])
  | result => result

/-- The directories on the way to a location. -/
def ancestors (here : Location) : Location → List Location
  | [] => []
  | [_] => []
  | name :: names => (here ++ [name]) :: ancestors (here ++ [name]) names

/-- The store of the given files, each with its path from the working directory. -/
def ofFiles (files : List (String × String)) : FileStore :=
  let located := files.map fun file => ((Path.parts file.1).map String.ofList, file.2)
  ⟨located, located.flatMap fun file => ancestors [] file.1⟩

/-- The files that are new or have other contents than before. -/
def changedFiles (before after : FileStore) : List (Location × String) :=
  after.files.filter fun file => before.file? file.1 != some file.2

/-- The directories that are new, the outermost ones first. -/
def newDirectories (before after : FileStore) : List Location :=
  (after.directories.filter fun location => !before.directories.contains location).reverse

end FileStore

end FieldRules
