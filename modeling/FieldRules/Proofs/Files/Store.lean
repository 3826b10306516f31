import FieldRules.Files.Store
import FieldRules.Proofs.Text.Cut

/-!
This file says what a store keeps. A file that is written can be read, a write leaves all other
places as they are, and two plain names in one directory are two places.
-/

namespace FieldRules

/-! ### Paths -/

namespace Path

/-- A plain name has no directories on the way to it. -/
structure IsPlain (name : String) : Prop where
  nonempty : name.toList ≠ []
  unsplit : '/' ∉ name.toList

theorem parts_eq (path : String) :
    parts path = (path.toList.splitOn '/').filter fun part => !part.isEmpty := by
  rw [parts, Text.pieces_eq_splitOn]

theorem IsPlain.parts {name : String} (plain : IsPlain name) : parts name = [name.toList] := by
  rw [parts_eq, List.splitOn_eq_singleton plain.unsplit]
  simpa using plain.nonempty

theorem IsPlain.isAbsolute {name : String} (plain : IsPlain name) : isAbsolute name = false := by
  rw [Path.isAbsolute, beq_eq_false_iff_ne]
  exact fun first => plain.unsplit (List.mem_of_head? first)

/-- The parts of a path in a directory follow the parts of the directory. -/
theorem parts_join {directory path : String} (relative : isAbsolute path = false) :
    parts (join directory path) = parts directory ++ parts path := by
  rw [join, relative, if_neg Bool.false_ne_true]
  split
  · next closed =>
      rcases Bool.or_eq_true_iff.1 closed with empty | slash
      · rw [String.isEmpty_iff.1 empty, String.empty_append]
        rfl
      · obtain ⟨front, ends⟩ : ∃ front, directory.toList = front ++ ['/'] :=
          List.getLast?_eq_some_iff.1 (beq_iff_eq.1 slash)
        simp [parts_eq, String.toList_append, ends, List.splitOn_append_cons_self,
          List.append_assoc]
  · simp [parts_eq, String.toList_append, List.splitOn_append_cons_self]

/-- A path in a directory is absolute if the directory is. -/
theorem isAbsolute_join {directory path : String} (relative : isAbsolute path = false) :
    isAbsolute (join directory path) = isAbsolute directory := by
  by_cases empty : directory = ""
  · subst empty
    have whole : join "" path = path := by
      rw [join, relative]
      exact String.empty_append
    rw [whole, relative]
    rfl
  · have nonempty : directory.toList ≠ [] := by simpa using empty
    rw [join, relative, if_neg Bool.false_ne_true]
    split <;> simp [isAbsolute, String.toList_append, List.head?_append_of_ne_nil _ nonempty]

end Path

/-! ### Places -/

namespace FileStore

/-- The place of a name in a directory. -/
def entry (here : Location) (part : List Char) : Location :=
  if part = ['.'] then here
  else if part = ['.', '.'] then here.parent
  else here ++ [String.ofList part]

/-- Each part of a way is a name in a directory. -/
theorem walk_cons_ok_iff {store : FileStore} {here location : Location} {part : List Char}
    {parts : List (List Char)} :
    store.walk here (part :: parts) = .ok location ↔
      store.hasDirectory here = true ∧ isLongName part = false ∧
        store.walk (entry here part) parts = .ok location := by
  have short : isLongName ['.'] = false ∧ isLongName ['.', '.'] = false := by decide
  rw [walk, entry]
  split
  · next directory =>
      rw [and_iff_right directory]
      split
      · next point => rw [point, and_iff_right short.1]
      · split
        · next points => rw [points, and_iff_right short.2]
        · cases isLongName part <;> simp
  · next missing =>
      refine iff_of_false ?_ fun found => missing found.1
      split <;> simp

theorem locate_ok_iff {store : FileStore} {path : String} {location : Location} :
    store.locate path = .ok location ↔
      (path.toList.contains '\x00' = false ∧ path.utf8ByteSize ≤ 4095 ∧ path.isEmpty = false) ∧
        store.walk (if Path.isAbsolute path then .root else []) (Path.parts path) =
          .ok location := by
  rw [locate]
  cases path.toList.contains '\x00' with
  | true => simp
  | false =>
      by_cases long : 4095 < path.utf8ByteSize
      · simp [long, Nat.not_le.2 long]
      · cases empty : path.isEmpty <;> simp [long, Nat.not_lt.1 long]

/-- The last part of a way is a name in the directory of the others. -/
theorem walk_append_singleton {store : FileStore} {here location : Location}
    {parts : List (List Char)} {part : List Char}
    (found : store.walk here (parts ++ [part]) = .ok location) :
    ∃ directory, store.walk here parts = .ok directory ∧ store.hasDirectory directory = true ∧
      location = entry directory part := by
  induction parts generalizing here with
  | nil =>
      obtain ⟨directory, -, last⟩ := walk_cons_ok_iff.1 found
      cases last
      exact ⟨here, rfl, directory, rfl⟩
  | cons first parts inductionHypothesis =>
      obtain ⟨directory, short, rest⟩ := walk_cons_ok_iff.1 found
      obtain ⟨inner, leads, further⟩ := inductionHypothesis rest
      exact ⟨inner, walk_cons_ok_iff.2 ⟨directory, short, leads⟩, further⟩

/-- The way to a place does not depend on the files. -/
theorem walk_of_directories {store other : FileStore}
    (same : other.directories = store.directories) {here location : Location}
    {parts : List (List Char)} (found : store.walk here parts = .ok location) :
    other.walk here parts = .ok location := by
  induction parts generalizing here with
  | nil => exact found
  | cons part parts inductionHypothesis =>
      obtain ⟨directory, short, rest⟩ := walk_cons_ok_iff.1 found
      refine walk_cons_ok_iff.2 ⟨?_, short, inductionHypothesis rest⟩
      rwa [hasDirectory, same]

theorem locate_of_directories {store other : FileStore}
    (same : other.directories = store.directories) {path : String} {location : Location}
    (found : store.locate path = .ok location) : other.locate path = .ok location := by
  obtain ⟨named, leads⟩ := locate_ok_iff.1 found
  exact locate_ok_iff.2 ⟨named, walk_of_directories same leads⟩

theorem parent_ne_append (here : Location) {part : List Char} (named : part ≠ ['.', '.']) :
    here.parent ≠ here ++ [String.ofList part] := by
  rw [Location.parent]
  split
  · intro same
    have longer := congrArg List.length same
    simp_all [Location.root]
  · split
    · intro same
      have last : ".." = String.ofList part := by simpa using same
      exact named (String.ofList_injective last.symm)
    · intro same
      have longer := congrArg List.length same
      simp at longer

/-- Different names in a directory are one place only if they name a directory. -/
theorem eq_of_entry_eq {store : FileStore} {here : Location} {part other : List Char}
    (directory : store.hasDirectory here = true) (same : entry here part = entry here other)
    (apart : store.hasDirectory (entry here part) = false) : part = other := by
  have notHere : entry here part ≠ here := by
    intro place
    rw [place, directory] at apart
    cases apart
  have first : part ≠ ['.'] := fun point => notHere (by rw [entry, if_pos point])
  have second : other ≠ ['.'] := fun point => notHere (by rw [same, entry, if_pos point])
  rw [entry, entry, if_neg first, if_neg second] at same
  by_cases up : part = ['.', '.'] <;> by_cases otherUp : other = ['.', '.']
  · rw [up, otherUp]
  · rw [if_pos up, if_neg otherUp] at same
    exact absurd same (parent_ne_append here otherUp)
  · rw [if_neg up, if_pos otherUp] at same
    exact absurd same.symm (parent_ne_append here up)
  · rw [if_neg up, if_neg otherUp] at same
    have names : String.ofList part = String.ofList other := by simpa using same
    exact String.ofList_injective names

/-- Different plain names have one place only if they name a directory. -/
theorem eq_of_locate_join_eq {store : FileStore} {directory name other : String}
    {location : Location} (plain : Path.IsPlain name) (otherPlain : Path.IsPlain other)
    (found : store.locate (Path.join directory name) = .ok location)
    (otherFound : store.locate (Path.join directory other) = .ok location)
    (apart : store.hasDirectory location = false) : name = other := by
  have leads := (locate_ok_iff.1 found).2
  have otherLeads := (locate_ok_iff.1 otherFound).2
  rw [Path.isAbsolute_join plain.isAbsolute, Path.parts_join plain.isAbsolute, plain.parts] at leads
  rw [Path.isAbsolute_join otherPlain.isAbsolute, Path.parts_join otherPlain.isAbsolute,
    otherPlain.parts] at otherLeads
  obtain ⟨here, inner, isDirectory, rfl⟩ := walk_append_singleton leads
  obtain ⟨otherHere, otherInner, -, same⟩ := walk_append_singleton otherLeads
  cases inner.symm.trans otherInner
  exact String.toList_injective (eq_of_entry_eq isDirectory same apart)

/-! ### Files -/

theorem lookup_putFile (location : Location) (contents : String)
    (files : List (Location × String)) :
    (putFile location contents files).lookup location = some contents := by
  induction files with
  | nil => simp [putFile]
  | cons file files inductionHypothesis =>
      rcases file with ⟨other, old⟩
      rw [putFile]
      by_cases same : other = location
      · simp [same]
      · have apart : (location == other) = false := by simpa using Ne.symm same
        rw [if_neg same, List.lookup_cons, apart]
        exact inductionHypothesis

theorem lookup_putFile_of_ne {location other : Location} (apart : other ≠ location)
    (contents : String) (files : List (Location × String)) :
    (putFile location contents files).lookup other = files.lookup other := by
  induction files with
  | nil => simp [putFile, apart]
  | cons file files inductionHypothesis =>
      rcases file with ⟨first, old⟩
      rw [putFile]
      by_cases same : first = location
      · have skipped : (other == location) = false := by simpa using apart
        rw [if_pos same, same, List.lookup_cons, List.lookup_cons, skipped]
      · rw [if_neg same, List.lookup_cons, List.lookup_cons, inductionHypothesis]

/-- A path can be read if it names a file that is there. -/
theorem read_ok_iff {store : FileStore} {path text : String} :
    store.read path = .ok text ↔
      ∃ location, store.locate path = .ok location ∧ store.hasDirectory location = false ∧
        store.file? location = some text ∧ Path.endsInSlash path = false := by
  rw [read]
  cases store.locate path with
  | error fault => simp
  | ok location =>
      simp only [Except.ok.injEq, exists_eq_left']
      cases store.hasDirectory location with
      | true => simp
      | false =>
          cases store.file? location with
          | none => simp
          | some contents => cases Path.endsInSlash path <;> simp

/-- Two paths to one place read the same file. -/
theorem read_of_locate_eq {store : FileStore} {path other text : String}
    (same : store.locate other = store.locate path) (slash : Path.endsInSlash other = false)
    (held : store.read path = .ok text) : store.read other = .ok text := by
  obtain ⟨location, found, directory, present, -⟩ := read_ok_iff.1 held
  exact read_ok_iff.2 ⟨location, same.trans found, directory, present, slash⟩

/-- A path can be written if it names a place that is no directory. -/
theorem write_ok_iff {store after : FileStore} {path contents : String} :
    store.write path contents = .ok after ↔
      ∃ location, store.locate path = .ok location ∧ store.hasDirectory location = false ∧
        Path.endsInSlash path = false ∧
        after = { store with files := putFile location contents store.files } := by
  rw [write]
  cases store.locate path with
  | error fault => simp
  | ok location =>
      simp only [Except.ok.injEq, exists_eq_left']
      cases store.hasDirectory location <;> cases Path.endsInSlash path <;> simp [eq_comm]

section

variable {store after : FileStore} {path contents : String}

theorem directories_of_write (written : store.write path contents = .ok after) :
    after.directories = store.directories := by
  obtain ⟨location, -, -, -, rfl⟩ := write_ok_iff.1 written
  rfl

/-- A file that is written can be read. -/
theorem read_of_write (written : store.write path contents = .ok after) :
    after.read path = .ok contents := by
  have same := directories_of_write written
  obtain ⟨location, found, directory, slash, rfl⟩ := write_ok_iff.1 written
  exact read_ok_iff.2 ⟨location, locate_of_directories same found, directory,
    lookup_putFile location contents store.files, slash⟩

/-- A write leaves the files at all other places as they are. -/
theorem read_of_write_apart (written : store.write path contents = .ok after) {other text : String}
    (apart : after.locate other ≠ after.locate path) (held : store.read other = .ok text) :
    after.read other = .ok text := by
  have same := directories_of_write written
  obtain ⟨location, found, -, -, rfl⟩ := write_ok_iff.1 written
  obtain ⟨place, otherFound, directory, present, slash⟩ := read_ok_iff.1 held
  refine read_ok_iff.2 ⟨place, locate_of_directories same otherFound, directory, ?_, slash⟩
  have distinct : place ≠ location := by
    rintro rfl
    exact apart ((locate_of_directories same otherFound).trans
      (locate_of_directories same found).symm)
  exact (lookup_putFile_of_ne distinct contents store.files).trans present

end

end FileStore

end FieldRules
