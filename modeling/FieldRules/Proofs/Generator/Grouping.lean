import FieldRules.Proofs.Generator.Naming
import FieldRules.Proofs.Plan.Whole

/-!
This file relates the generated files to the plans of a schema. Each namespace with a plan has one
file, and the file holds the implementations of the plans of its namespace.
-/

namespace FieldRules

/-- A list of related items exists if each item is related to one. -/
theorem exists_forall₂_iff {Item Other : Type} {relation : Item → Other → Prop}
    {items : List Item} :
    (∃ others, List.Forall₂ relation items others) ↔
      ∀ item ∈ items, ∃ other, relation item other := by
  constructor
  · rintro ⟨others, related⟩ item member
    obtain ⟨other, -, holds⟩ := exists_right_of_forall₂ related member
    exact ⟨other, holds⟩
  · intro each
    induction items with
    | nil => exact ⟨[], .nil⟩
    | cons item items inductionHypothesis =>
        obtain ⟨other, holds⟩ := each item List.mem_cons_self
        obtain ⟨others, related⟩ := inductionHypothesis fun item member =>
          each item (List.mem_cons_of_mem _ member)
        exact ⟨other :: others, .cons holds related⟩

/-- Each of the joined texts stands in the whole text. -/
theorem exists_intercalate_eq_append (separator : String) {text : String} {texts : List String}
    (member : text ∈ texts) :
    ∃ before after, separator.intercalate texts = before ++ text ++ after := by
  induction texts with
  | nil => cases member
  | cons first texts inductionHypothesis =>
      cases texts with
      | nil =>
          rw [List.mem_singleton.1 member, String.intercalate_singleton]
          exact ⟨"", "", by simp⟩
      | cons second texts =>
          rw [String.intercalate_cons_cons]
          rcases List.mem_cons.1 member with rfl | later
          · exact ⟨"", separator ++ separator.intercalate (second :: texts), by
              simp [String.append_assoc]⟩
          · obtain ⟨before, after, whole⟩ := inductionHypothesis later
            exact ⟨first ++ separator ++ before, after, by simp [whole, String.append_assoc]⟩

/-! ### Groups of plans -/

namespace PlanSet

/-- The plans of a namespace, in the order of the set. -/
def within (set : PlanSet) (namespaceName : String) : List Plan :=
  set.plans.filter fun plan => plan.namespaceName == namespaceName

/-- A namespace is used if one of the plans has it. -/
def Uses (set : PlanSet) (namespaceName : String) : Prop :=
  ∃ plan ∈ set.plans, plan.namespaceName = namespaceName

theorem mem_within_iff {set : PlanSet} {namespaceName : String} {plan : Plan} :
    plan ∈ set.within namespaceName ↔ plan ∈ set.plans ∧ plan.namespaceName = namespaceName := by
  simp [within]

/-- The namespaces that are used, each one at its first place. -/
def namespaces (set : PlanSet) : List String :=
  (set.plans.map Plan.namespaceName).eraseDups

theorem mem_namespaces_iff {set : PlanSet} {namespaceName : String} :
    namespaceName ∈ set.namespaces ↔ set.Uses namespaceName := by
  rw [namespaces, List.mem_eraseDups, List.mem_map, Uses]

theorem byNamespace_eq (set : PlanSet) :
    set.byNamespace = set.namespaces.map fun name => (name, set.within name) := by
  rw [byNamespace, firstSeen_eq_eraseDups]
  rfl

end PlanSet

/-! ### Files -/

namespace GeneratedFile

/-- The contents are the banner and the implementations, with an empty line between two of them. -/
theorem contentsOf_ok_iff {config : GeneratorConfig} {namespaceName contents : String}
    {plans : List Plan} :
    contentsOf config namespaceName plans = .ok contents ↔
      ∃ texts, List.Forall₂ (fun plan text => plan.implementation config = .ok text) plans texts ∧
        contents = banner config namespaceName ++ "\n".intercalate texts := by
  simp only [contentsOf, ← Plan.implementations_ok_iff]
  cases Plan.implementations config plans <;> simp [Except.map, eq_comm]

/-- The contents of a namespace are written if the names of its plans are identifiers. -/
theorem exists_contentsOf_iff {config : GeneratorConfig} {namespaceName : String}
    {plans : List Plan} :
    (∃ contents, contentsOf config namespaceName plans = .ok contents) ↔
      ∀ plan ∈ plans, ∀ name ∈ plan.names, Identifier.IsSpelled name := by
  have written (plan : Plan) := @Plan.implementation_ok_iff config plan
  simp only [contentsOf_ok_iff, ← written, ← exists_forall₂_iff]
  constructor
  · rintro ⟨_, texts, each, -⟩
    exact ⟨texts, each⟩
  · rintro ⟨texts, each⟩
    exact ⟨_, texts, each, rfl⟩

/-- The file of a namespace has the implementations of its plans as contents. -/
structure IsOf (config : GeneratorConfig) (set : PlanSet) (namespaceName : String)
    (file : GeneratedFile) : Prop where
  named : file.namespaceName = namespaceName
  placed : file.fileName = config.fileName namespaceName
  written : contentsOf config namespaceName (set.within namespaceName) = .ok file.contents

/-- A text stands in a file if it is a part of the contents. -/
def Shows (file : GeneratedFile) (text : String) : Prop :=
  ∃ before after, file.contents = before ++ text ++ after

/-- A file shows the implementation of each plan of its namespace. -/
theorem IsOf.shows {config : GeneratorConfig} {set : PlanSet} {file : GeneratedFile} {plan : Plan}
    (ofPlan : file.IsOf config set plan.namespaceName) (member : plan ∈ set.plans) :
    ∃ text, plan.implementation config = .ok text ∧ file.Shows text := by
  obtain ⟨texts, each, whole⟩ := contentsOf_ok_iff.1 ofPlan.written
  have inside : plan ∈ set.within plan.namespaceName := PlanSet.mem_within_iff.2 ⟨member, rfl⟩
  obtain ⟨text, textMember, ofText⟩ := exists_right_of_forall₂ each inside
  obtain ⟨before, after, joined⟩ := exists_intercalate_eq_append "\n" textMember
  refine ⟨text, ofText, banner config plan.namespaceName ++ before, after, ?_⟩
  rw [whole, joined, String.append_assoc, String.append_assoc, String.append_assoc]

/-- The files of some namespaces stand in the order of the namespaces. -/
theorem ofGroups_ok_iff {config : GeneratorConfig} {set : PlanSet} {names : List String}
    {files : List GeneratedFile} :
    ofGroups config (names.map fun name => (name, set.within name)) = .ok files ↔
      List.Forall₂ (fun name file => file.IsOf config set name) names files := by
  induction names generalizing files with
  | nil => cases files <;> simp [ofGroups]
  | cons name names inductionHypothesis =>
      rw [List.map_cons, ofGroups, List.forall₂_cons_left_iff]
      simp only [← inductionHypothesis]
      constructor
      · intro generated
        split at generated
        · cases generated
        · next contents written =>
            split at generated
            · cases generated
            · next others rest =>
                cases generated
                exact ⟨_, others, ⟨rfl, rfl, written⟩, rest, rfl⟩
      · rintro ⟨⟨namespaceName, fileName, contents⟩, others, ⟨named, placed, written⟩, rest, rfl⟩
        dsimp only at named placed written
        rw [written, rest, named, placed]

/-- Each file is the file of its own namespace. -/
theorem isOf_of_mem {config : GeneratorConfig} {set : PlanSet} {names : List String}
    {files : List GeneratedFile}
    (generated : List.Forall₂ (fun name file => file.IsOf config set name) names files)
    {file : GeneratedFile} (member : file ∈ files) : file.IsOf config set file.namespaceName := by
  obtain ⟨name, -, ofName⟩ := exists_right_of_forall₂ generated.flip member
  have named : file.namespaceName = name := ofName.named
  rw [named]
  exact ofName

/-- The files stand in the order of their namespaces. -/
theorem map_namespaceName {config : GeneratorConfig} {set : PlanSet} {names : List String}
    {files : List GeneratedFile}
    (generated : List.Forall₂ (fun name file => file.IsOf config set name) names files) :
    files.map namespaceName = names := by
  induction generated with
  | nil => rfl
  | cons first _ inductionHypothesis => rw [List.map_cons, first.named, inductionHypothesis]

end GeneratedFile

/-! ### Runs of the generator -/

section

variable {schema : Schema} {config : GeneratorConfig} {files : List GeneratedFile}

/-- The generator gives one file for each used namespace, in order. -/
theorem generate_ok_iff :
    generate schema config = .ok files ↔
      ∃ set, (Compiler.ofSchema schema).compileAll = .ok set ∧
        List.Forall₂ (fun name file => file.IsOf config set name) set.namespaces files := by
  rw [generate]
  cases (Compiler.ofSchema schema).compileAll with
  | error error => simp
  | ok set => simp [PlanSet.byNamespace_eq, GeneratedFile.ofGroups_ok_iff]

/-- The generator succeeds if all records compile and the names of all plans are identifiers. -/
theorem exists_generate_iff :
    (∃ files, generate schema config = .ok files) ↔
      ∃ set, (Compiler.ofSchema schema).compileAll = .ok set ∧
        ∀ plan ∈ set.plans, ∀ name ∈ plan.names, Identifier.IsSpelled name := by
  simp only [generate_ok_iff]
  constructor
  · rintro ⟨files, set, compiled, generated⟩
    refine ⟨set, compiled, fun plan member => ?_⟩
    have used : plan.namespaceName ∈ set.namespaces :=
      PlanSet.mem_namespaces_iff.2 ⟨plan, member, rfl⟩
    obtain ⟨file, -, ofName⟩ := exists_right_of_forall₂ generated used
    have inside : plan ∈ set.within plan.namespaceName := PlanSet.mem_within_iff.2 ⟨member, rfl⟩
    exact GeneratedFile.exists_contentsOf_iff.1 ⟨file.contents, ofName.written⟩ plan inside
  · rintro ⟨set, compiled, spelled⟩
    have each : ∀ name ∈ set.namespaces, ∃ file : GeneratedFile, file.IsOf config set name := by
      intro name _
      obtain ⟨contents, written⟩ : ∃ contents,
          GeneratedFile.contentsOf config name (set.within name) = .ok contents :=
        GeneratedFile.exists_contentsOf_iff.2 fun plan inside =>
          spelled plan (PlanSet.mem_within_iff.1 inside).1
      exact ⟨⟨name, config.fileName name, contents⟩, rfl, rfl, written⟩
    obtain ⟨files, generated⟩ := exists_forall₂_iff.2 each
    exact ⟨files, set, compiled, generated⟩

/-- The file of a used namespace is one of the generated ones. -/
theorem exists_file {set : PlanSet} {name : String}
    (generated : List.Forall₂ (fun name file => file.IsOf config set name) set.namespaces files)
    (used : set.Uses name) : ∃ file ∈ files, file.IsOf config set name :=
  exists_right_of_forall₂ generated (PlanSet.mem_namespaces_iff.2 used)

end
end FieldRules
