import FieldRules.Command.Basic
import FieldRules.Proofs.Files.Store
import FieldRules.Proofs.Generator.Grouping

/-!
This file says what a run of the generator leaves in the store. The place of each file holds the
contents that are written there last, and these belong to another namespace only if the names of the
two files lead to one place.
-/

namespace FieldRules

/-- The path of the file of a namespace. -/
def GeneratorConfig.target (config : GeneratorConfig) (outDir namespaceName : String) : String :=
  Path.join outDir (config.fileName namespaceName)

/-- The files of the two namespaces have one place. -/
def FileStore.Shares (store : FileStore) (config : GeneratorConfig) (outDir name other : String) :
    Prop :=
  store.locate (config.target outDir name) = store.locate (config.target outDir other)

/-- The file of the first namespace holds exactly the contents of the second one. -/
def FileStore.Holds (store : FileStore) (config : GeneratorConfig) (set : PlanSet)
    (outDir name owner : String) : Prop :=
  ∃ contents, GeneratedFile.contentsOf config owner (set.within owner) = .ok contents ∧
    store.read (config.target outDir name) = .ok contents

/-- The owner is the last used namespace with its file in that place. -/
def FileStore.IsLast (store : FileStore) (config : GeneratorConfig) (set : PlanSet)
    (outDir name owner : String) : Prop :=
  ∃ before after, set.namespaces = before ++ owner :: after ∧
    store.Shares config outDir owner name ∧ ∀ later ∈ after, ¬store.Shares config outDir later name

/-- Only the stem of the empty namespace is also the stem of another one. -/
theorem GeneratorConfig.fileName_eq_iff {config : GeneratorConfig} {name other : String} :
    config.fileName name = config.fileName other ↔
      name = other ∨ (name = "" ∧ other = "validators") ∨ (name = "validators" ∧ other = "") := by
  rw [fileName, fileName, String.append_left_inj]
  have stem (text : String) : text.isEmpty = true ↔ text = "" := String.isEmpty_iff
  by_cases empty : name = "" <;> by_cases otherEmpty : other = ""
  · simp [empty, otherEmpty]
  · rw [if_pos ((stem name).2 empty), if_neg (mt (stem other).1 otherEmpty), empty]
    simp [Ne.symm otherEmpty, otherEmpty, @eq_comm _ other "validators"]
  · rw [if_neg (mt (stem name).1 empty), if_pos ((stem other).2 otherEmpty)]
    simp [empty, otherEmpty]
  · rw [if_neg (mt (stem name).1 empty), if_neg (mt (stem other).1 otherEmpty)]
    simp [empty, otherEmpty]

/-- An item with a property is followed by a last item with the property. -/
theorem exists_last_of_mem {Item : Type} (holds : Item → Prop) {items : List Item} {item : Item}
    (member : item ∈ items) (ofItem : holds item) :
    ∃ before last after, items = before ++ last :: after ∧ holds last ∧
      ∀ later ∈ after, ¬holds later := by
  induction items generalizing item with
  | nil => cases member
  | cons first items inductionHypothesis =>
      by_cases further : ∃ later ∈ items, holds later
      · obtain ⟨later, laterMember, ofLater⟩ := further
        obtain ⟨before, last, after, rfl, ofLast, none⟩ := inductionHypothesis laterMember ofLater
        exact ⟨first :: before, last, after, rfl, ofLast, none⟩
      · have only : item = first := by
          rcases List.mem_cons.1 member with same | later
          · exact same
          · exact absurd ⟨item, later, ofItem⟩ further
        subst only
        exact ⟨[], item, items, rfl, ofItem, fun later inside ofLater =>
          further ⟨later, inside, ofLater⟩⟩

namespace Command

/-- The files are written one after the other, and no write fails. -/
inductive Writes (outDir : String) : FileStore → List GeneratedFile → FileStore → Prop
  | done (store : FileStore) : Writes outDir store [] store
  | next {store middle last : FileStore} {file : GeneratedFile} {files : List GeneratedFile}
      (written : store.write (Path.join outDir file.fileName) file.contents = .ok middle)
      (rest : Writes outDir middle files last) : Writes outDir store (file :: files) last

section

variable {outDir : String} {store last : FileStore} {files : List GeneratedFile}

theorem writeFiles_cons (file : GeneratedFile) (output : String) :
    writeFiles outDir (file :: files) output store =
      match store.write (Path.join outDir file.fileName) file.contents with
      | .error fault => .failed (.write (Path.join outDir file.fileName) fault) output store
      | .ok middle =>
          writeFiles outDir files (output ++ "wrote " ++ Path.join outDir file.fileName ++ "\n")
            middle := (rfl)

theorem writeFiles_of_write {middle : FileStore} {file : GeneratedFile} {output : String}
    (written : store.write (Path.join outDir file.fileName) file.contents = .ok middle) :
    writeFiles outDir (file :: files) output store =
      writeFiles outDir files (output ++ "wrote " ++ Path.join outDir file.fileName ++ "\n")
        middle := by
  rw [writeFiles_cons, written]

theorem writes_of_writeFiles {output : String}
    (succeeded : (writeFiles outDir files output store).failure = none) :
    Writes outDir store files (writeFiles outDir files output store).store := by
  induction files generalizing store output with
  | nil => exact .done store
  | cons file files inductionHypothesis =>
      rw [writeFiles_cons] at succeeded ⊢
      split at succeeded
      · cases succeeded
      · next middle written =>
          exact .next written (inductionHypothesis succeeded)

namespace Writes

/-- Files are written into the directories that are there. -/
theorem directories (writes : Writes outDir store files last) :
    last.directories = store.directories := by
  induction writes with
  | done store => rfl
  | next written _ inductionHypothesis =>
      exact inductionHypothesis.trans (FileStore.directories_of_write written)

/-- Each file is written to a place of its directory. -/
theorem located (writes : Writes outDir store files last) {file : GeneratedFile}
    (member : file ∈ files) :
    ∃ location, last.locate (Path.join outDir file.fileName) = .ok location ∧
      last.hasDirectory location = false ∧
      Path.endsInSlash (Path.join outDir file.fileName) = false := by
  induction writes with
  | done store => cases member
  | @next store middle last first files written rest inductionHypothesis =>
      rcases List.mem_cons.1 member with rfl | later
      · have same := rest.directories.trans (FileStore.directories_of_write written)
        obtain ⟨location, found, directory, slash, -⟩ := FileStore.write_ok_iff.1 written
        refine ⟨location, FileStore.locate_of_directories same found, ?_, slash⟩
        rwa [FileStore.hasDirectory, same]
      · exact inductionHypothesis later

/-- A file stays as it is if nothing is written to its place. -/
theorem read_apart (writes : Writes outDir store files last) {path text : String}
    (apart : ∀ file ∈ files, last.locate (Path.join outDir file.fileName) ≠ last.locate path)
    (held : store.read path = .ok text) : last.read path = .ok text := by
  induction writes with
  | done store => exact held
  | @next store middle last file files written rest inductionHypothesis =>
      refine inductionHypothesis (fun later member => apart later (List.mem_cons_of_mem _ member)) ?_
      refine FileStore.read_of_write_apart written (fun same => ?_) held
      obtain ⟨location, found, -⟩ := FileStore.read_ok_iff.1 (FileStore.read_of_write written)
      refine apart file List.mem_cons_self ?_
      rw [FileStore.locate_of_directories rest.directories found,
        FileStore.locate_of_directories rest.directories (same.trans found)]

/-- The last file that is written to a place can be read there. -/
theorem read_last (writes : Writes outDir store files last) {before after : List GeneratedFile}
    {file : GeneratedFile} (split : files = before ++ file :: after)
    (apart : ∀ later ∈ after, last.locate (Path.join outDir later.fileName) ≠
      last.locate (Path.join outDir file.fileName)) :
    last.read (Path.join outDir file.fileName) = .ok file.contents := by
  induction writes generalizing before with
  | done store => simp at split
  | next written rest inductionHypothesis =>
      cases before with
      | nil =>
          cases split
          exact rest.read_apart apart (FileStore.read_of_write written)
      | cons first before =>
          cases split
          exact inductionHypothesis rfl apart

end Writes

end

section

variable {config : GeneratorConfig} {set : PlanSet} {outDir : String} {store last : FileStore}
  {files : List GeneratedFile}

/-- The file of each used namespace holds the contents of the last namespace with its place. -/
theorem exists_holds_of_writes
    (generated : List.Forall₂ (fun name file => file.IsOf config set name) set.namespaces files)
    (writes : Writes outDir store files last) {name : String} (used : set.Uses name) :
    ∃ owner, last.IsLast config set outDir name owner ∧ last.Holds config set outDir name owner := by
  have path {file : GeneratedFile} (member : file ∈ files) :
      Path.join outDir file.fileName = config.target outDir file.namespaceName := by
    rw [(GeneratedFile.isOf_of_mem generated member).placed, GeneratorConfig.target]
  obtain ⟨file, member, ofName⟩ := exists_file generated used
  obtain ⟨-, -, -, slash⟩ := writes.located member
  obtain ⟨before, winner, after, split, shares, none⟩ := exists_last_of_mem
    (fun other : GeneratedFile =>
      last.Shares config outDir other.namespaceName file.namespaceName) member rfl
  have winnerMember : winner ∈ files := by simp [split]
  have afterMember : ∀ later ∈ after, later ∈ files := fun later inside => by simp [split, inside]
  have contents : last.read (config.target outDir winner.namespaceName) = .ok winner.contents := by
    rw [← path winnerMember]
    refine writes.read_last split fun later inside same => none later inside ?_
    rw [path winnerMember, path (afterMember later inside)] at same
    exact same.trans shares
  rw [path member] at slash
  rw [ofName.named] at slash shares none
  refine ⟨winner.namespaceName, ⟨before.map GeneratedFile.namespaceName,
    after.map GeneratedFile.namespaceName, ?_, shares, ?_⟩, winner.contents, ?_, ?_⟩
  · rw [← GeneratedFile.map_namespaceName generated, split, List.map_append, List.map_cons]
  · intro later inside
    obtain ⟨other, otherMember, rfl⟩ := List.mem_map.1 inside
    exact none other otherMember
  · exact (GeneratedFile.isOf_of_mem generated winnerMember).written
  · exact FileStore.read_of_locate_eq shares.symm slash contents

/-- Two namespaces with plain file names have one place only if their file names are equal. -/
theorem shares_iff_of_isPlain
    (generated : List.Forall₂ (fun name file => file.IsOf config set name) set.namespaces files)
    (writes : Writes outDir store files last) {name other : String} (used : set.Uses name)
    (plain : Path.IsPlain (config.fileName name))
    (otherPlain : Path.IsPlain (config.fileName other)) :
    last.Shares config outDir name other ↔ config.fileName name = config.fileName other := by
  constructor
  · intro shares
    obtain ⟨file, member, ofName⟩ := exists_file generated used
    obtain ⟨location, found, apart, -⟩ := writes.located member
    rw [ofName.placed] at found
    exact FileStore.eq_of_locate_join_eq plain otherPlain found (shares.symm.trans found) apart
  · intro same
    rw [FileStore.Shares, GeneratorConfig.target, GeneratorConfig.target, same]

end

section

variable {store : FileStore} {manifest outDir : String} {config : GeneratorConfig}
  {conclusion : Conclusion}

/-- A run that succeeds writes the files that are generated from its schema. -/
theorem writes_of_runGenerate (ran : runGenerate store manifest outDir config = conclusion)
    (succeeded : conclusion.failure = none) :
    ∃ schema files start, loadManifest store manifest = .ok schema ∧
      generate schema config = .ok files ∧ Writes outDir start files conclusion.store := by
  subst ran
  rw [runGenerate] at succeeded ⊢
  split at succeeded
  · cases succeeded
  · next schema loaded =>
      rw [writeSchema] at succeeded ⊢
      split at succeeded
      · cases succeeded
      · next generated => exact ⟨schema, [], store, loaded, generated, .done store⟩
      · next files filled generated =>
          split at succeeded
          · cases succeeded
          · next start created =>
              exact ⟨schema, files, start, loaded, generated, writes_of_writeFiles succeeded⟩

theorem loadManifest_of_read {format : DataFormat} {text : String} {schema : Schema}
    (named : DataFormat.ofPath? manifest = some format) (present : store.read manifest = .ok text)
    (read : Schema.ofManifest? format text = some schema) :
    loadManifest store manifest = .ok schema := by
  simp only [loadManifest, named, present, read]

theorem runGenerate_of_generate {schema : Schema} {file : GeneratedFile}
    {files : List GeneratedFile} {start : FileStore}
    (loaded : loadManifest store manifest = .ok schema)
    (generated : generate schema config = .ok (file :: files))
    (created : store.createDirectories outDir = .ok start) :
    runGenerate store manifest outDir config = writeFiles outDir (file :: files) "" start := by
  simp only [runGenerate, writeSchema, loaded, generated, created]

/-- Each place keeps the contents of the last namespace that has its file there. -/
theorem run_keeps_last_contents (ran : runGenerate store manifest outDir config = conclusion)
    (succeeded : conclusion.failure = none) :
    ∃ schema set files, loadManifest store manifest = .ok schema ∧
      (Compiler.ofSchema schema).compileAll = .ok set ∧ generate schema config = .ok files ∧
      List.Forall₂ (fun name file => file.IsOf config set name) set.namespaces files ∧
      (∀ name, set.Uses name → ∃ owner, conclusion.store.IsLast config set outDir name owner ∧
        conclusion.store.Holds config set outDir name owner) ∧
      (∀ name, set.Uses name →
        (∀ other, set.Uses other → conclusion.store.Shares config outDir other name →
          other = name) → conclusion.store.Holds config set outDir name name) ∧
      (∀ name other, set.Uses name → Path.IsPlain (config.fileName name) →
        Path.IsPlain (config.fileName other) → (conclusion.store.Shares config outDir name other ↔
          config.fileName name = config.fileName other)) ∧
      ∀ name other, config.fileName name = config.fileName other ↔
        name = other ∨ (name = "" ∧ other = "validators") ∨
          (name = "validators" ∧ other = "") := by
  obtain ⟨schema, files, start, loaded, generated, writes⟩ := writes_of_runGenerate ran succeeded
  obtain ⟨set, compiled, each⟩ := generate_ok_iff.1 generated
  refine ⟨schema, set, files, loaded, compiled, generated, each,
    fun name => exists_holds_of_writes each writes, fun name used alone => ?_,
    fun name other => shares_iff_of_isPlain each writes,
    fun name other => GeneratorConfig.fileName_eq_iff⟩
  obtain ⟨owner, ⟨before, after, split, shares, -⟩, holds⟩ := exists_holds_of_writes each writes used
  have ownerUsed : set.Uses owner := PlanSet.mem_namespaces_iff.1 (by simp [split])
  rw [alone owner ownerUsed shares] at holds
  exact holds

end

/-- One record is in no namespace, and the other one in the stem for none. -/
def stemManifest : String :=
  "\x7b\"records\":[\x7b\"name\":\"User\",\"fields\":[\x7b\"name\":\"login\"," ++
  "\"kind\":\"text\",\"tag\":\"req\"\x7d]\x7d,\x7b\"name\":\"Shop\"," ++
  "\"namespace\":\"validators\",\"fields\":[\x7b\"name\":\"title\",\"kind\":\"text\"," ++
  "\"tag\":\"req\"\x7d]\x7d]\x7d"

def stemSchema : Schema :=
  ⟨[⟨"User", "", [⟨"login", .text, "", "req"⟩]⟩,
    ⟨"Shop", "validators", [⟨"title", .text, "", "req"⟩]⟩]⟩

def stemSet : PlanSet :=
  ⟨[⟨"User", "", [.check ⟨"login", .text, ⟨"req", none⟩⟩ .notEmpty]⟩,
    ⟨"Shop", "validators", [.check ⟨"title", .text, ⟨"req", none⟩⟩ .notEmpty]⟩]⟩

/-- The manifest is the only file before the run. -/
def stemStore : FileStore :=
  ⟨[(["records.json"], stemManifest)], []⟩

/-- One file is there after the run, with the given contents. -/
def stemResult (contents : String) : FileStore :=
  ⟨[(["records.json"], stemManifest), (["gen", "validators_tagval.rs"], contents)], [["gen"]]⟩

theorem loadManifest_stemStore : loadManifest stemStore "records.json" = .ok stemSchema := by
  have format : DataFormat.ofPath? "records.json" = some .json := by decide +kernel
  have present : stemStore.read "records.json" = .ok stemManifest := rfl
  have schema : Schema.ofManifest? .json stemManifest = some stemSchema := by decide +kernel
  exact loadManifest_of_read format present schema

theorem compileAll_stemSchema : (Compiler.ofSchema stemSchema).compileAll = .ok stemSet := by
  have names : (Compiler.ofSchema stemSchema).names = ["User", "Shop"] := by rfl
  have user : (Compiler.ofSchema stemSchema).compile "User" = .ok stemSet.plans.head? :=
    Compiler.compile_ok_iff.2 ⟨_, rfl, rfl⟩
  have shop : (Compiler.ofSchema stemSchema).compile "Shop" = .ok stemSet.plans.getLast? :=
    Compiler.compile_ok_iff.2 ⟨_, rfl, rfl⟩
  apply Compiler.compileAll_of_plans
  rw [names]
  exact .cons user (.cons shop .nil)

/-- Both files are written to one place, so the second one is left there. -/
theorem runGenerate_stemStore :
    ∃ first second, first ≠ second ∧
      GeneratedFile.contentsOf .default "" (stemSet.within "") = .ok first ∧
      GeneratedFile.contentsOf .default "validators" (stemSet.within "validators") = .ok second ∧
      ∃ output, runGenerate stemStore "records.json" "gen" .default =
        .success output (stemResult second) := by
  have spelled : ∀ plan ∈ stemSet.plans, ∀ name ∈ plan.names, Identifier.IsSpelled name := by
    intro plan member name inside
    rcases List.mem_pair.1 member with rfl | rfl <;>
      rcases List.mem_pair.1 inside with rfl | rfl <;> exact ⟨_, rfl⟩
  have written (name : String) :
      ∃ contents, GeneratedFile.contentsOf .default name (stemSet.within name) = .ok contents :=
    GeneratedFile.exists_contentsOf_iff.2 fun plan inside =>
      spelled plan (PlanSet.mem_within_iff.1 inside).1
  obtain ⟨first, ofFirst⟩ := written ""
  obtain ⟨second, ofSecond⟩ := written "validators"
  refine ⟨first, second, ?_, ofFirst, ofSecond, ?_⟩
  · -- Only the contents of the second namespace have a line for it after the first line.
    obtain ⟨texts, -, rfl⟩ := GeneratedFile.contentsOf_ok_iff.1 ofFirst
    obtain ⟨others, -, rfl⟩ := GeneratedFile.contentsOf_ok_iff.1 ofSecond
    intro same
    have letters := congrArg String.toList same
    simp [GeneratedFile.banner, GeneratorConfig.default] at letters
  · have names : stemSet.namespaces = ["", "validators"] := by rfl
    have generated : generate stemSchema .default =
        .ok [⟨"", "validators_tagval.rs", first⟩, ⟨"validators", "validators_tagval.rs", second⟩] := by
      refine generate_ok_iff.2 ⟨stemSet, compileAll_stemSchema, ?_⟩
      rw [names]
      exact .cons ⟨rfl, rfl, ofFirst⟩ (.cons ⟨rfl, rfl, ofSecond⟩ .nil)
    have created : stemStore.createDirectories "gen" =
        .ok ⟨[(["records.json"], stemManifest)], [["gen"]]⟩ := rfl
    have ofUser : (FileStore.mk [(["records.json"], stemManifest)] [["gen"]]).write
        (Path.join "gen" "validators_tagval.rs") first = .ok (stemResult first) := rfl
    have ofShop : (stemResult first).write (Path.join "gen" "validators_tagval.rs") second =
        .ok (stemResult second) := rfl
    have start := runGenerate_of_generate loadManifest_stemStore generated created
    exact ⟨_, start.trans ((writeFiles_of_write ofUser).trans (writeFiles_of_write ofShop))⟩

/-- The contents of the empty namespace are lost to those of its stem. -/
theorem run_keeps_last_contents_of_stemStore :
    (runGenerate stemStore "records.json" "gen" .default).failure = none ∧
    stemSet.Uses "" ∧ ∃ owner,
      (runGenerate stemStore "records.json" "gen" .default).store.IsLast .default stemSet "gen" ""
        owner ∧
      (runGenerate stemStore "records.json" "gen" .default).store.Holds .default stemSet "gen" ""
        owner := by
  obtain ⟨_, second, -, -, -, _, ran⟩ := runGenerate_stemStore
  have succeeded : (runGenerate stemStore "records.json" "gen" .default).failure = none := by
    rw [ran]
    rfl
  have used : stemSet.Uses "" := ⟨_, List.mem_cons_self, rfl⟩
  obtain ⟨schema, set, files, loaded, compiled, -, -, kept, -⟩ :=
    run_keeps_last_contents rfl succeeded
  cases loaded.symm.trans loadManifest_stemStore
  cases compiled.symm.trans compileAll_stemSchema
  exact ⟨succeeded, used, kept "" used⟩

/-- A run may succeed and lose the contents of a namespace. -/
theorem run_loses_contents :
    loadManifest stemStore "records.json" = .ok stemSchema ∧
    (Compiler.ofSchema stemSchema).compileAll = .ok stemSet ∧
    (runGenerate stemStore "records.json" "gen" .default).failure = none ∧
    stemSet.Uses "" ∧
    ¬(runGenerate stemStore "records.json" "gen" .default).store.Holds .default stemSet "gen" ""
        "" := by
  obtain ⟨first, second, apart, ofFirst, -, _, ran⟩ := runGenerate_stemStore
  rw [ran]
  refine ⟨loadManifest_stemStore, compileAll_stemSchema, rfl, ⟨_, List.mem_cons_self, rfl⟩, ?_⟩
  rintro ⟨contents, ofContents, held⟩
  have present : (stemResult second).read (GeneratorConfig.default.target "gen" "") = .ok second :=
    rfl
  cases ofContents.symm.trans ofFirst
  cases present.symm.trans held
  exact apart rfl

end Command

end FieldRules
