import FieldRules.Proofs.Generator.Grouping
import FieldRules.Proofs.Text.Cut

/-!
This file says what stands in a generated file in front of its first implementation. The banner
repeats the namespace as it is, so each line break inside of the namespace ends the comment there.
-/

namespace FieldRules

open Text (Blank)

/-- A remark is a blank line or a comment after two slashes. -/
def IsRemark (line : List Char) : Prop :=
  Blank line ∨ ['/', '/'] <+: Text.trimStart line

/-- A comment starts with its slashes. -/
theorem isRemark_of_slashes (rest : List Char) : IsRemark ('/' :: '/' :: rest) := by
  refine .inr ?_
  rw [Text.trimStart, List.dropWhile_cons_of_neg (by decide)]
  exact ⟨rest, rfl⟩

theorem isRemark_nil : IsRemark [] :=
  .inl Text.blank_nil

/-! ### Lines -/

/-- A text without line breaks stands in front of the first line. -/
theorem splitOn_append_of_not_mem {separator : Char} {front : List Char}
    (absent : separator ∉ front) (text : List Char) :
    (front ++ text).splitOn separator = (text.splitOn separator).modifyHead (front ++ ·) := by
  induction front with
  | nil => rw [List.nil_append]; cases text.splitOn separator <;> rfl
  | cons c front inductionHypothesis =>
      simp only [List.mem_cons, not_or] at absent
      rw [List.cons_append, List.splitOn_cons_eq_if_modifyHead, inductionHypothesis absent.2,
        if_neg (by simpa using Ne.symm absent.1)]
      cases text.splitOn separator <;> rfl

/-! ### Implementations -/

/-- The first of the joined texts stands in front. -/
theorem exists_intercalate_eq_append_head (separator text : String) (texts : List String) :
    ∃ after, separator.intercalate (text :: texts) = text ++ after := by
  cases texts with
  | nil => exact ⟨"", by rw [String.intercalate_singleton, String.append_empty]⟩
  | cons second texts =>
      exact ⟨separator ++ separator.intercalate (second :: texts), by
        rw [String.intercalate_cons_cons, String.append_assoc]⟩

/-- An implementation starts with its keyword. -/
theorem Plan.impl_prefix_of_implementation {config : GeneratorConfig} {plan : Plan} {text : String}
    (written : plan.implementation config = .ok text) : "impl ".toList <+: text.toList := by
  rw [implementation] at written
  split at written
  · cases written
  · split at written
    · cases written
    · cases written
      simp [ofLines]

namespace GeneratedFile

/-- The first line of a banner. -/
def notice : String :=
  "// Code generated by tagval. DO NOT EDIT."

/-- The line of the namespace starts with this text. -/
def namespaceLabel : String :=
  "// Namespace: "

theorem banner_toList {config : GeneratorConfig} (headed : config.header = true)
    (namespaceName : String) :
    (banner config namespaceName).toList = notice.toList ++ '\n' ::
      (if namespaceName = "" then ['\n']
        else (namespaceLabel.toList ++ namespaceName.toList) ++ '\n' :: ['\n']) := by
  rw [banner, if_pos headed]
  by_cases empty : namespaceName = ""
  · subst empty
    rfl
  · simp [notice, namespaceLabel, empty]

/-- The lines of a banner, and the start of the first implementation. -/
theorem banner_lines {config : GeneratorConfig} (headed : config.header = true)
    (namespaceName : String) :
    (banner config namespaceName).toList.splitOn '\n' = notice.toList ::
      (if namespaceName = "" then []
        else (namespaceName.toList.splitOn '\n').modifyHead (namespaceLabel.toList ++ ·)) ++
      [[], []] := by
  have notice_plain : '\n' ∉ notice.toList := by decide
  have label_plain : '\n' ∉ namespaceLabel.toList := by decide
  rw [banner_toList headed, List.splitOn_append_cons_self_of_not_mem notice_plain]
  split
  · rfl
  · rw [List.splitOn_append_cons_self, splitOn_append_of_not_mem label_plain]
    rfl

/-- A banner is all remarks if and only if the further lines of the namespace are. -/
theorem banner_isRemark_iff {config : GeneratorConfig} (headed : config.header = true)
    (namespaceName : String) :
    (∀ line ∈ (banner config namespaceName).toList.splitOn '\n', IsRemark line) ↔
      ∀ line ∈ (namespaceName.toList.splitOn '\n').tail, IsRemark line := by
  have first : IsRemark notice.toList := isRemark_of_slashes _
  rw [banner_lines headed]
  split
  · next empty =>
      subst empty
      simp [first, isRemark_nil]
  · cases shown : namespaceName.toList.splitOn '\n' with
    | nil => exact absurd shown (List.splitOn_ne_nil _ _)
    | cons opening further =>
        have label : IsRemark (namespaceLabel.toList ++ opening) := isRemark_of_slashes _
        simp only [List.modifyHead_cons, List.tail_cons, List.cons_append, List.forall_mem_cons,
          List.forall_mem_append]
        simp [first, label, isRemark_nil]

/-- The text stands in a file in front of the implementation of its first plan. -/
def IsOpenedBy (file : GeneratedFile) (config : GeneratorConfig) (set : PlanSet)
    (opening : String) : Prop :=
  ∃ plan text rest, (set.within file.namespaceName).head? = some plan ∧
    plan.implementation config = .ok text ∧ "impl ".toList <+: text.toList ∧
    file.contents = opening ++ text ++ rest

/-- The banner of a file ends at the implementation of its first plan. -/
theorem IsOf.isOpenedBy_banner {config : GeneratorConfig} {set : PlanSet} {file : GeneratedFile}
    (ofName : file.IsOf config set file.namespaceName) (used : set.Uses file.namespaceName) :
    file.IsOpenedBy config set (banner config file.namespaceName) := by
  obtain ⟨texts, each, whole⟩ := contentsOf_ok_iff.1 ofName.written
  obtain ⟨plan, member, within⟩ := used
  have inside : plan ∈ set.within file.namespaceName := PlanSet.mem_within_iff.2 ⟨member, within⟩
  cases shown : set.within file.namespaceName with
  | nil =>
      rw [shown] at inside
      cases inside
  | cons first others =>
      rw [shown] at each
      obtain ⟨text, rest, ofFirst, -, rfl⟩ := List.forall₂_cons_left_iff.1 each
      obtain ⟨after, joined⟩ := exists_intercalate_eq_append_head "\n" text rest
      refine ⟨first, text, after, by rw [shown]; rfl, ofFirst, ?_, ?_⟩
      · exact Plan.impl_prefix_of_implementation ofFirst
      · rw [whole, joined, String.append_assoc]

end GeneratedFile

/-- A banner is a remark if and only if the further lines of the namespace are. -/
theorem banner_isRemark_iff_of_generate {schema : Schema} {config : GeneratorConfig}
    {files : List GeneratedFile} (generated : generate schema config = .ok files)
    (headed : config.header = true) {file : GeneratedFile} (member : file ∈ files) :
    ∃ set, (Compiler.ofSchema schema).compileAll = .ok set ∧
      file.IsOpenedBy config set (GeneratedFile.banner config file.namespaceName) ∧
      ((∀ line ∈ (GeneratedFile.banner config file.namespaceName).toList.splitOn '\n',
          IsRemark line) ↔
        ∀ line ∈ (file.namespaceName.toList.splitOn '\n').tail, IsRemark line) := by
  obtain ⟨set, compiled, ofNames⟩ := generate_ok_iff.1 generated
  have ofName : file.IsOf config set file.namespaceName := GeneratedFile.isOf_of_mem ofNames member
  have used : set.Uses file.namespaceName := by
    rw [← PlanSet.mem_namespaces_iff, ← GeneratedFile.map_namespaceName ofNames]
    exact List.mem_map_of_mem member
  exact ⟨set, compiled, ofName.isOpenedBy_banner used,
    GeneratedFile.banner_isRemark_iff headed file.namespaceName⟩

/-- The namespace of the stall has a second line, which is an item of a file. -/
def stallSchema : Schema :=
  ⟨[⟨"Stall", "shop\nmod extra;", [⟨"title", .text, "", "req"⟩]⟩]⟩

def stallPlan : Plan :=
  ⟨"Stall", "shop\nmod extra;", [.check ⟨"title", .text, ⟨"req", none⟩⟩ .notEmpty]⟩

theorem compileAll_stallSchema :
    (Compiler.ofSchema stallSchema).compileAll = .ok ⟨[stallPlan]⟩ := by
  have names : (Compiler.ofSchema stallSchema).names = ["Stall"] := by rfl
  have compiled : (Compiler.ofSchema stallSchema).compile "Stall" = .ok (some stallPlan) :=
    Compiler.compile_ok_iff.2 ⟨_, rfl, rfl⟩
  apply Compiler.compileAll_of_plans
  rw [names]
  exact .cons compiled .nil

theorem generate_stallSchema :
    ∃ file, generate stallSchema .default = .ok [file] ∧
      file.IsOf .default ⟨[stallPlan]⟩ "shop\nmod extra;" := by
  have spelled : ∀ plan ∈ PlanSet.within ⟨[stallPlan]⟩ "shop\nmod extra;", ∀ name ∈ plan.names,
      Identifier.IsSpelled name := by
    intro plan inside name member
    rw [List.mem_singleton.1 (PlanSet.mem_within_iff.1 inside).1] at member
    rcases List.mem_pair.1 member with rfl | rfl <;> exact ⟨_, rfl⟩
  obtain ⟨contents, written⟩ := GeneratedFile.exists_contentsOf_iff.2 spelled
  have names : PlanSet.namespaces ⟨[stallPlan]⟩ = ["shop\nmod extra;"] := by rfl
  have ofName : GeneratedFile.IsOf .default ⟨[stallPlan]⟩ "shop\nmod extra;" ⟨_, _, contents⟩ :=
    ⟨rfl, rfl, written⟩
  refine ⟨_, generate_ok_iff.2 ⟨_, compileAll_stallSchema, ?_⟩, ofName⟩
  rw [names]
  exact .cons ofName .nil

theorem banner_isRemark_iff_of_stallSchema :
    ∃ file, generate stallSchema .default = .ok [file] ∧ GeneratorConfig.default.header = true ∧
      ∃ set, (Compiler.ofSchema stallSchema).compileAll = .ok set ∧
        file.IsOpenedBy .default set (GeneratedFile.banner .default file.namespaceName) ∧
        ((∀ line ∈ (GeneratedFile.banner .default file.namespaceName).toList.splitOn '\n',
            IsRemark line) ↔
          ∀ line ∈ (file.namespaceName.toList.splitOn '\n').tail, IsRemark line) := by
  obtain ⟨file, generated, -⟩ := generate_stallSchema
  exact ⟨file, generated, rfl,
    banner_isRemark_iff_of_generate generated rfl List.mem_cons_self⟩

/-- The second line of the namespace stands in the file without the slashes of a comment. -/
theorem banner_carries_second_line :
    ∃ file, generate stallSchema .default = .ok [file] ∧ GeneratorConfig.default.header = true ∧
      file.IsOpenedBy .default ⟨[stallPlan]⟩ (GeneratedFile.banner .default file.namespaceName) ∧
      ∃ line ∈ (GeneratedFile.banner .default file.namespaceName).toList.splitOn '\n',
        ¬IsRemark line := by
  obtain ⟨file, generated, ofName⟩ := generate_stallSchema
  have named := ofName.named
  rw [← named] at ofName
  have used : PlanSet.Uses ⟨[stallPlan]⟩ file.namespaceName :=
    ⟨stallPlan, List.mem_cons_self, named.symm⟩
  refine ⟨file, generated, rfl, ofName.isOpenedBy_banner used, "mod extra;".toList, ?_, ?_⟩
  · rw [named]
    decide +kernel
  · rintro (blank | comment)
    · exact absurd (blank 'm' List.mem_cons_self) (by decide)
    · exact absurd comment (by decide)

end FieldRules
