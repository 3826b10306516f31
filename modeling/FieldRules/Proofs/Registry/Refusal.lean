import FieldRules.Proofs.Registry.IntegerType
import FieldRules.Proofs.Registry.RuleTable

/-!
This file says why rules are refused. Several things can be wrong with a rule at once; each of them
belongs to a stage, and the built-in registry reports the one whose stage comes first.
-/

namespace FieldRules

/-- The keywords with the kinds of fields to which they apply. -/
def rulePairs : List (String × Kind) :=
  [("req", .text), ("email", .text), ("url", .text), ("ip", .text), ("regex", .text),
    ("min", .text), ("min", .integer), ("max", .text), ("max", .integer), ("equals", .text),
    ("equals", .integer), ("obj", .nested), ("validate", .nested)]

/-- The keywords that are written with an argument. -/
def argumentKeywords : List String :=
  ["regex", "min", "max", "equals"]

def Rule.IsKnown (rule : Rule) : Prop :=
  rule.keyword ∈ rulePairs.map Prod.fst

def Rule.SetsBound (rule : Rule) : Prop :=
  rule.keyword = "min" ∨ rule.keyword = "max"

/-- Each row is a fault of a rule; several rows can hold of one rule. -/
inductive RuleFault.AppliesOver (library : Pattern.Library) (record : Record) (field : Field)
    (rule : Rule) : RuleFault → Prop
  | unknownKeyword (unknown : ¬rule.IsKnown) :
      AppliesOver library record field rule (.unknownKeyword rule.keyword field.kind)
  | unsupportedKind (unsupported : (rule.keyword, field.kind) ∉ rulePairs) :
      AppliesOver library record field rule (.unsupportedKind rule.keyword field.kind)
  | missingArgument (takes : rule.keyword ∈ argumentKeywords) (absent : rule.argument = none) :
      AppliesOver library record field rule (.missingArgument rule.keyword)
  | unexpectedArgument (bare : rule.keyword ∉ argumentKeywords) (argument : String)
      (present : rule.argument = some argument) :
      AppliesOver library record field rule (.unexpectedArgument rule.keyword argument)
  | invalidPattern (pattern : String) (asked : rule = ⟨"regex", some pattern⟩)
      (refused : library pattern = none) :
      AppliesOver library record field rule (.invalidPattern pattern)
  | notInteger (bounds : rule.SetsBound) (argument : String)
      (present : rule.argument = some argument) (refused : ∀ bound, ¬SpellsBound argument bound) :
      AppliesOver library record field rule (.invalidArgument rule.keyword argument .integer)
  | outOfRange (kind : field.kind = .integer) (bounds : rule.SetsBound) (argument : String)
      (present : rule.argument = some argument) (bound : Int)
      (spelled : SpellsBound argument bound) (outside : ¬field.Admits bound) :
      AppliesOver library record field rule (.outOfRange rule.keyword argument field.typeName)
  | negativeLength (kind : field.kind = .text) (bounds : rule.SetsBound) (argument : String)
      (present : rule.argument = some argument) (bound : Int)
      (spelled : SpellsBound argument bound) (negative : bound < 0) :
      AppliesOver library record field rule (.invalidArgument rule.keyword argument .length)
  | unknownSibling (target : String) (asked : rule = ⟨"equals", some target⟩)
      (absent : record.field? target = none) :
      AppliesOver library record field rule (.unknownSibling target)
  | siblingKind (target : String) (asked : rule = ⟨"equals", some target⟩) (other : Field)
      (found : record.field? target = some other) (differs : other.kind ≠ field.kind) :
      AppliesOver library record field rule (.siblingKind target field.kind other.kind)
  | siblingType (target : String) (asked : rule = ⟨"equals", some target⟩) (other : Field)
      (found : record.field? target = some other) (conflict : ¬field.agreesWith other) :
      AppliesOver library record field rule (.siblingType target field.typeName other.typeName)

/-- The keyword is read first, then the kind of the field, then the argument. -/
def RuleFault.stage : RuleFault → Nat
  | .unknownKeyword .. => 0
  | .unsupportedKind .. => 1
  | .missingArgument .. => 2
  | .unexpectedArgument .. => 2
  | .invalidPattern .. => 3
  | .invalidArgument _ _ .integer => 3
  | .unknownSibling .. => 3
  | .outOfRange .. => 4
  | .invalidArgument _ _ .length => 4
  | .siblingKind .. => 4
  | .siblingType .. => 5
  | .unknownRecord .. => 6

/-- The first fault applies, and no fault of an earlier stage does. -/
def RuleFault.FirstOver (library : Pattern.Library) (record : Record) (field : Field) (rule : Rule)
    (fault : RuleFault) : Prop :=
  fault.AppliesOver library record field rule ∧
    ∀ other : RuleFault, other.AppliesOver library record field rule → fault.stage ≤ other.stage

abbrev RuleFault.First (record : Record) (field : Field) (rule : Rule) (fault : RuleFault) : Prop :=
  fault.FirstOver Pattern.compile? record field rule

/-! ### Keywords -/

section

variable {library : Pattern.Library} {keyword : Keyword} {name : String}

theorem isSome_ofText?_iff :
    (Keyword.ofText? name).isSome = true ↔ name ∈ rulePairs.map Prod.fst := by
  have known : ∀ name ∈ rulePairs.map Prod.fst, (Keyword.ofText? name).isSome = true := by decide
  constructor
  · intro spelled
    obtain ⟨keyword, spelled⟩ := Option.isSome_iff_exists.1 spelled
    rcases Keyword.ofText?_eq_some_iff.1 spelled with rfl | ⟨rfl, -⟩
    · clear spelled
      cases keyword <;> decide
    · decide
  · exact known name

theorem supports_iff (spelled : Keyword.ofText? name = some keyword) (kind : Kind) :
    ((Registry.builtinOver library).resolver? keyword kind).isSome = true ↔ (name, kind) ∈ rulePairs := by
  -- The pairs do not depend on the library, so they can be decided.
  rw [← Registry.mem_pairs_iff]
  change (keyword, kind) ∈ Registry.builtin.pairs ↔ _
  rcases Keyword.ofText?_eq_some_iff.1 spelled with rfl | ⟨rfl, rfl⟩
  · cases keyword <;> cases kind <;> decide
  · cases kind <;> decide

theorem takesArgument_iff (spelled : Keyword.ofText? name = some keyword) :
    keyword.takesArgument = true ↔ name ∈ argumentKeywords := by
  rcases Keyword.ofText?_eq_some_iff.1 spelled with rfl | ⟨rfl, rfl⟩
  · cases keyword <;> decide
  · decide

end

/-! ### Stages -/

section

variable {library : Pattern.Library} {record : Record} {field : Field} {rule : Rule}
  {fault other : RuleFault}

/-- At most one fault of each stage is wrong with a rule. -/
theorem RuleFault.AppliesOver.unique (first : fault.AppliesOver library record field rule)
    (second : other.AppliesOver library record field rule) (same : fault.stage = other.stage) :
    fault = other := by
  cases first <;> cases second <;> simp_all [RuleFault.stage, Rule.SetsBound]

theorem RuleFault.AppliesOver.one_le_stage (known : rule.IsKnown)
    (applies : fault.AppliesOver library record field rule) : 1 ≤ fault.stage := by
  cases applies with
  | unknownKeyword unknown => exact absurd known unknown
  | _ => simp [RuleFault.stage]

theorem RuleFault.AppliesOver.two_le_stage (supported : (rule.keyword, field.kind) ∈ rulePairs)
    (applies : fault.AppliesOver library record field rule) : 2 ≤ fault.stage := by
  cases applies with
  | unknownKeyword unknown => exact absurd (List.mem_map_of_mem supported) unknown
  | unsupportedKind unsupported => exact absurd supported unsupported
  | _ => simp [RuleFault.stage]

/-- A rule that stands in the table and has the arguments that it takes. -/
def Rule.IsFormed (rule : Rule) (field : Field) : Prop :=
  (rule.keyword, field.kind) ∈ rulePairs ∧
    (rule.argument.isSome = true ↔ rule.keyword ∈ argumentKeywords)

theorem RuleFault.AppliesOver.three_le_stage (formed : rule.IsFormed field)
    (applies : fault.AppliesOver library record field rule) : 3 ≤ fault.stage := by
  cases applies with
  | unknownKeyword unknown => exact absurd (List.mem_map_of_mem formed.1) unknown
  | unsupportedKind unsupported => exact absurd formed.1 unsupported
  | missingArgument takes absent => simpa [absent] using formed.2.2 takes
  | unexpectedArgument bare argument present => exact absurd (formed.2.1 (by simp [present])) bare
  | _ => simp [RuleFault.stage]

/-- A bound that is spelled can only be refused for its value. -/
theorem RuleFault.AppliesOver.four_le_stage_of_bound (formed : rule.IsFormed field)
    (bounds : rule.SetsBound) {argument : String} (present : rule.argument = some argument)
    {bound : Int} (spelled : SpellsBound argument bound)
    (applies : fault.AppliesOver library record field rule) : 4 ≤ fault.stage := by
  have reached := applies.three_le_stage formed
  cases applies with
  | invalidPattern pattern asked => simp [Rule.SetsBound, asked] at bounds
  | notInteger bounds other known refused =>
      cases present.symm.trans known
      exact absurd spelled (refused bound)
  | unknownSibling target asked => simp [Rule.SetsBound, asked] at bounds
  | unknownKeyword | unsupportedKind | missingArgument | unexpectedArgument =>
      simp [RuleFault.stage] at reached
  | _ => simp [RuleFault.stage]

/-- A sibling that is there can only be refused for its kind or its type. -/
theorem RuleFault.AppliesOver.four_le_stage_of_sibling (formed : rule.IsFormed field) {target : String}
    (asked : rule = ⟨"equals", some target⟩) {sibling : Field}
    (found : record.field? target = some sibling) (applies : fault.AppliesOver library record field rule) :
    4 ≤ fault.stage := by
  have reached := applies.three_le_stage formed
  subst asked
  cases applies with
  | invalidPattern pattern asked => simp at asked
  | notInteger bounds => simp [Rule.SetsBound] at bounds
  | unknownSibling other asked absent =>
      cases asked
      cases found.symm.trans absent
  | unknownKeyword | unsupportedKind | missingArgument | unexpectedArgument =>
      simp [RuleFault.stage] at reached
  | _ => simp [RuleFault.stage]

/-! ### Resolvers -/

theorem Declaration.integerBound_error {declaration : Declaration}
    (stopped : declaration.integerBound = .error fault) :
    (fault = declaration.invalidArgument .integer ∧
      ∀ bound, ¬SpellsBound declaration.argumentText bound) ∨
    (declaration.field.kind = .integer ∧
      fault = .outOfRange declaration.keyword.text declaration.argumentText
        declaration.field.typeName ∧
      ∃ bound, SpellsBound declaration.argumentText bound ∧ ¬declaration.field.Admits bound) := by
  rw [integerBound] at stopped
  split at stopped
  · next unread =>
      cases stopped
      refine .inl ⟨rfl, fun bound spelled => ?_⟩
      rw [integerIn?_word_iff.2 spelled] at unread
      cases unread
  · next bound read =>
      have spelled := integerIn?_word_iff.1 read
      split at stopped
      · next kind =>
          split at stopped
          · cases stopped
          · next range known =>
              split at stopped
              · cases stopped
              · next outside =>
                  cases stopped
                  refine .inr ⟨kind, rfl, bound, spelled, fun admits => outside ?_⟩
                  exact (range_contains_iff spelled.2.1 spelled.2.2).2 admits range known
      · cases stopped

theorem Declaration.sibling_error {declaration : Declaration}
    (stopped : declaration.sibling = .error fault) :
    (declaration.record.field? declaration.argumentText = none ∧
      fault = .unknownSibling declaration.argumentText) ∨
    ∃ other, declaration.record.field? declaration.argumentText = some other ∧
      ((other.kind ≠ declaration.field.kind ∧
        fault = .siblingKind declaration.argumentText declaration.field.kind other.kind) ∨
      (other.kind = declaration.field.kind ∧ ¬declaration.field.agreesWith other ∧
        fault = .siblingType declaration.argumentText declaration.field.typeName
          other.typeName)) := by
  rw [sibling] at stopped
  split at stopped
  · next absent =>
      cases stopped
      exact .inl ⟨absent, rfl⟩
  · next other found =>
      refine .inr ⟨other, found, ?_⟩
      split at stopped
      · next differs =>
          cases stopped
          exact .inl ⟨differs, rfl⟩
      · next sameKind =>
          split at stopped
          · next conflict =>
              cases stopped
              refine .inr ⟨not_not.1 sameKind, ?_, rfl⟩
              simp only [Field.agreesWith]
              tauto
          · cases stopped

/-- A fault is blamed on the field of the declaration. -/
theorem Resolver.blaming_error_iff {read : Declaration → Except RuleFault Resolution}
    {declaration : Declaration} {error : RuleError} :
    Resolver.blaming read declaration = .error error ↔
      error.field = declaration.field.name ∧ read declaration = .error error.fault := by
  rw [blaming]
  cases read declaration with
  | ok resolution => simp [Except.mapError]
  | error fault =>
      obtain ⟨name, reported⟩ := error
      simp [Except.mapError, Declaration.blame, eq_comm]

theorem Resolver.patternOver_error {declaration : Declaration}
    (stopped : Resolver.patternOver library declaration = .error fault) :
    library declaration.argumentText = none ∧
      fault = .invalidPattern declaration.argumentText := by
  rw [patternOver] at stopped
  split at stopped
  · next refused =>
      cases stopped
      exact ⟨refused, rfl⟩
  · cases stopped

/-- A result that is mapped has the error of the result itself. -/
theorem error_of_map {Value Result : Type} {map : Value → Result}
    {result : Except RuleFault Value} (stopped : result.map map = .error fault) :
    result = .error fault := by
  cases result with
  | error other => exact congrArg _ (Except.error.inj stopped)
  | ok value => cases stopped

/-- The resolver of a rule sees the rule with its keyword. -/
def Rule.declaration (record : Record) (field : Field) (rule : Rule) (keyword : Keyword) :
    Declaration :=
  ⟨record, field, keyword, rule⟩

theorem first_of_integerBound {keyword : Keyword} {argument : String}
    (asked : rule = ⟨keyword.text, some argument⟩) (bounds : rule.SetsBound)
    (formed : rule.IsFormed field)
    (stopped : (rule.declaration record field keyword).integerBound = .error fault) :
    fault.FirstOver library record field rule := by
  subst asked
  rcases Declaration.integerBound_error stopped with
    ⟨rfl, refused⟩ | ⟨kind, rfl, bound, spelled, outside⟩
  · refine ⟨.notInteger bounds argument rfl refused, fun other applies => ?_⟩
    exact applies.three_le_stage formed
  · refine ⟨.outOfRange kind bounds argument rfl bound spelled outside, fun other applies => ?_⟩
    exact applies.four_le_stage_of_bound formed bounds rfl spelled

theorem first_of_lengthBound {keyword : Keyword} {argument : String}
    (asked : rule = ⟨keyword.text, some argument⟩) (bounds : rule.SetsBound)
    (formed : rule.IsFormed field) (kind : field.kind = .text)
    (stopped : (rule.declaration record field keyword).lengthBound = .error fault) :
    fault.FirstOver library record field rule := by
  rw [Declaration.lengthBound] at stopped
  split at stopped
  · next unread =>
      cases stopped
      exact first_of_integerBound asked bounds formed unread
  · next bound read =>
      split at stopped
      · next negative =>
          cases stopped
          subst asked
          have spelled := integerIn?_word_iff.1 (Declaration.integerBound_ok_iff.1 read).1
          refine ⟨.negativeLength kind bounds argument rfl bound spelled negative,
            fun other applies => ?_⟩
          exact applies.four_le_stage_of_bound formed bounds rfl spelled
      · cases stopped

theorem first_of_sibling {keyword : Keyword} {target : String}
    (asked : rule = ⟨"equals", some target⟩) (formed : rule.IsFormed field)
    (stopped : (rule.declaration record field keyword).sibling = .error fault) :
    fault.FirstOver library record field rule := by
  have text : (rule.declaration record field keyword).argumentText = target := by rw [asked]; rfl
  rcases Declaration.sibling_error stopped with
    ⟨absent, rfl⟩ | ⟨other, found, ⟨differs, rfl⟩ | ⟨sameKind, conflict, rfl⟩⟩
  all_goals rw [text] at *
  · refine ⟨.unknownSibling target asked absent, fun other applies => ?_⟩
    exact applies.three_le_stage formed
  · refine ⟨.siblingKind target asked other found differs, fun other applies => ?_⟩
    exact applies.four_le_stage_of_sibling formed asked found
  · refine ⟨.siblingType target asked other found conflict, fun further applies => ?_⟩
    have reached := applies.four_le_stage_of_sibling formed asked found
    cases applies with
    | siblingKind _ again another known differs =>
        cases asked.symm.trans again
        cases found.symm.trans known
        exact absurd sameKind differs
    | siblingType => exact Nat.le_refl _
    | outOfRange kind bounds => simp [asked, Rule.SetsBound] at bounds
    | negativeLength kind bounds => simp [asked, Rule.SetsBound] at bounds
    | _ => simp [RuleFault.stage] at reached

/-- A registry refuses a rule before its resolver is asked, or the resolver refuses it. -/
inductive Registry.Refuses (registry : Registry) (record : Record) (field : Field) (rule : Rule) :
    RuleError → Prop
  | unknown (unspelled : Keyword.ofText? rule.keyword = none) :
      Refuses registry record field rule ⟨field.name, .unknownKeyword rule.keyword field.kind⟩
  | unsupported {keyword : Keyword} (spelled : Keyword.ofText? rule.keyword = some keyword)
      (absent : registry.resolver? keyword field.kind = none) :
      Refuses registry record field rule ⟨field.name, .unsupportedKind rule.keyword field.kind⟩
  | missing {keyword : Keyword} (spelled : Keyword.ofText? rule.keyword = some keyword)
      {resolver : Resolver} (known : registry.resolver? keyword field.kind = some resolver)
      (takes : keyword.takesArgument = true) (absent : rule.argument = none) :
      Refuses registry record field rule ⟨field.name, .missingArgument rule.keyword⟩
  | unexpected {keyword : Keyword} (spelled : Keyword.ofText? rule.keyword = some keyword)
      {resolver : Resolver} (known : registry.resolver? keyword field.kind = some resolver)
      (bare : keyword.takesArgument = false) {argument : String}
      (present : rule.argument = some argument) :
      Refuses registry record field rule ⟨field.name, .unexpectedArgument rule.keyword argument⟩
  | resolver {keyword : Keyword} (spelled : Keyword.ofText? rule.keyword = some keyword)
      {resolver : Resolver} (known : registry.resolver? keyword field.kind = some resolver)
      (takes : rule.argument.isSome = keyword.takesArgument) {error : RuleError}
      (stopped : resolver (rule.declaration record field keyword) = .error error) :
      Refuses registry record field rule error

theorem Registry.refuses_of_resolve {registry : Registry} {error : RuleError}
    (stopped : registry.resolve record field rule = .error error) :
    registry.Refuses record field rule error := by
  rw [resolve] at stopped
  split at stopped
  · next unspelled =>
      cases stopped
      exact .unknown unspelled
  · next keyword spelled =>
      rw [resolveKeyword] at stopped
      split at stopped
      · next absent =>
          cases stopped
          exact .unsupported spelled absent
      · next resolver known =>
          dsimp only at stopped
          split at stopped
          · next takes absent =>
              cases stopped
              exact .missing spelled known takes absent
          · next argument bare present =>
              cases stopped
              exact .unexpected spelled known bare present
          · next notMissing notUnexpected =>
              refine .resolver spelled known ?_ stopped
              cases takes : keyword.takesArgument with
              | true =>
                  cases given : rule.argument with
                  | none => exact absurd given (notMissing takes)
                  | some argument => rfl
              | false =>
                  cases given : rule.argument with
                  | none => rfl
                  | some argument => exact absurd given (notUnexpected argument takes)

/-- What the built-in registry reports is the first fault of the rule. -/
theorem first_of_refuses {error : RuleError}
    (refuses : (Registry.builtinOver library).Refuses record field rule error) :
    error.field = field.name ∧ error.fault.FirstOver library record field rule := by
  cases refuses with
  | unknown unspelled =>
      refine ⟨rfl, .unknownKeyword fun known => ?_, fun other applies => Nat.zero_le _⟩
      rw [Rule.IsKnown, ← isSome_ofText?_iff, unspelled] at known
      cases known
  | unsupported spelled absent =>
      have known : rule.IsKnown := isSome_ofText?_iff.1 (by rw [spelled]; rfl)
      refine ⟨rfl, .unsupportedKind fun supported => ?_,
        fun other applies => applies.one_le_stage known⟩
      rw [← supports_iff spelled, absent] at supported
      cases supported
  | missing spelled known takes absent =>
      have supported := (supports_iff spelled field.kind).1 (by rw [known]; rfl)
      exact ⟨rfl, .missingArgument ((takesArgument_iff spelled).1 takes) absent,
        fun other applies => applies.two_le_stage supported⟩
  | unexpected spelled known bare present =>
      have supported := (supports_iff spelled field.kind).1 (by rw [known]; rfl)
      have without := mt (takesArgument_iff spelled).2 (by rw [bare]; decide)
      exact ⟨rfl, .unexpectedArgument without _ present,
        fun other applies => applies.two_le_stage supported⟩
  | @resolver keyword spelled resolver known takes error stopped =>
      have formed : rule.IsFormed field :=
        ⟨(supports_iff spelled field.kind).1 (by rw [known]; rfl),
          by rw [takes, takesArgument_iff spelled]⟩
      obtain ⟨spelling, argument⟩ := rule
      rw [Keyword.ofText?_eq_some_iff] at spelled
      dsimp only at spelled takes
      have canonical (other : keyword ≠ .descend) : spelling = keyword.text :=
        spelled.resolve_right fun second => other second.2
      rw [Registry.resolver?_builtinOver] at known
      split at known <;> cases known
      · cases stopped
      · cases stopped
      · cases stopped
      · cases stopped
      · obtain ⟨pattern, rfl⟩ := Option.isSome_iff_exists.1 takes
        obtain rfl := canonical (by decide)
        obtain ⟨named, stopped⟩ := Resolver.blaming_error_iff.1 stopped
        obtain ⟨refused, same⟩ := Resolver.patternOver_error stopped
        rw [same]
        exact ⟨named, .invalidPattern pattern rfl refused,
          fun other applies => applies.three_le_stage formed⟩
      · next kind =>
          obtain ⟨argument, rfl⟩ := Option.isSome_iff_exists.1 takes
          obtain rfl := canonical (by decide)
          obtain ⟨named, stopped⟩ := Resolver.blaming_error_iff.1 stopped
          exact ⟨named, first_of_lengthBound rfl (.inl rfl) formed kind (error_of_map stopped)⟩
      · next kind =>
          obtain ⟨argument, rfl⟩ := Option.isSome_iff_exists.1 takes
          obtain rfl := canonical (by decide)
          obtain ⟨named, stopped⟩ := Resolver.blaming_error_iff.1 stopped
          exact ⟨named, first_of_lengthBound rfl (.inr rfl) formed kind (error_of_map stopped)⟩
      · obtain ⟨argument, rfl⟩ := Option.isSome_iff_exists.1 takes
        obtain rfl := canonical (by decide)
        obtain ⟨named, stopped⟩ := Resolver.blaming_error_iff.1 stopped
        exact ⟨named, first_of_integerBound rfl (.inl rfl) formed (error_of_map stopped)⟩
      · obtain ⟨argument, rfl⟩ := Option.isSome_iff_exists.1 takes
        obtain rfl := canonical (by decide)
        obtain ⟨named, stopped⟩ := Resolver.blaming_error_iff.1 stopped
        exact ⟨named, first_of_integerBound rfl (.inr rfl) formed (error_of_map stopped)⟩
      · obtain ⟨target, rfl⟩ := Option.isSome_iff_exists.1 takes
        obtain rfl := canonical (by decide)
        obtain ⟨named, stopped⟩ := Resolver.blaming_error_iff.1 stopped
        exact ⟨named, first_of_sibling rfl formed (error_of_map stopped)⟩
      · obtain ⟨target, rfl⟩ := Option.isSome_iff_exists.1 takes
        obtain rfl := canonical (by decide)
        obtain ⟨named, stopped⟩ := Resolver.blaming_error_iff.1 stopped
        exact ⟨named, first_of_sibling rfl formed (error_of_map stopped)⟩
      · cases stopped

/-! ### Rules of the table -/

section

variable {resolution : Resolution}

theorem RuleTableOver.isFormed (row : RuleTableOver library record field rule resolution) :
    rule.IsFormed field := by
  cases row with
  | equals kind =>
      rcases kind with kind | kind <;> simp [Rule.IsFormed, rulePairs, argumentKeywords, kind]
  | descend kind spelling known =>
      rcases known with rfl | rfl <;> simp [Rule.IsFormed, rulePairs, argumentKeywords, kind]
  | _ kind => simp [Rule.IsFormed, rulePairs, argumentKeywords, kind]

theorem RuleTableOver.pattern_of_regex (row : RuleTableOver library record field rule resolution) {text : String}
    (asked : rule = ⟨"regex", some text⟩) : ∃ pattern, library text = some pattern := by
  cases row with
  | regex kind argument pattern compiled =>
      cases asked
      exact ⟨pattern, compiled⟩
  | descend kind spelling known => cases asked
  | _ => simp at asked

/-- The bound of a rule of the table is one that the field admits. -/
theorem RuleTableOver.bound_of_setsBound (row : RuleTableOver library record field rule resolution)
    (bounds : rule.SetsBound) {argument : String} (present : rule.argument = some argument) :
    ∃ bound, SpellsBound argument bound ∧ (field.kind = .text → 0 ≤ bound) ∧
      (field.kind = .integer → field.Admits bound) := by
  cases row with
  | minLength kind other bound spelled | maxLength kind other bound spelled =>
      cases present
      exact ⟨bound, integerIn?_word_iff.1 spelled, fun _ => Int.natCast_nonneg bound,
        fun integer => by cases kind.symm.trans integer⟩
  | minValue kind other bound spelled fits | maxValue kind other bound spelled fits =>
      cases present
      have word := integerIn?_word_iff.1 spelled
      exact ⟨bound, word, fun text => (by cases kind.symm.trans text),
        fun _ => (range_contains_iff word.2.1 word.2.2).1 fits⟩
  | descend kind spelling known => cases present
  | _ => simp [Rule.SetsBound] at bounds

/-- Nothing is wrong with a rule of the table. -/
theorem RuleTableOver.not_applies (row : RuleTableOver library record field rule resolution) :
    ¬fault.AppliesOver library record field rule := by
  intro applies
  have reached := applies.three_le_stage row.isFormed
  cases applies with
  | unknownKeyword | unsupportedKind | missingArgument | unexpectedArgument =>
      simp [RuleFault.stage] at reached
  | invalidPattern text asked refused =>
      obtain ⟨pattern, compiled⟩ := row.pattern_of_regex asked
      cases refused.symm.trans compiled
  | notInteger bounds argument present refused =>
      obtain ⟨bound, spelled, -⟩ := row.bound_of_setsBound bounds present
      exact refused bound spelled
  | outOfRange kind bounds argument present bound spelled outside =>
      obtain ⟨other, again, -, admits⟩ := row.bound_of_setsBound bounds present
      rw [spelled.1.unique again.1] at outside
      exact outside (admits kind)
  | negativeLength kind bounds argument present bound spelled negative =>
      obtain ⟨other, again, nonnegative, -⟩ := row.bound_of_setsBound bounds present
      rw [spelled.1.unique again.1] at negative
      exact absurd (nonnegative kind) (Int.not_le.2 negative)
  | unknownSibling target asked absent =>
      obtain ⟨other, found, -⟩ := row.sibling_of_equals asked
      cases absent.symm.trans found
  | siblingKind target asked other found differs =>
      obtain ⟨again, known, sameKind, -⟩ := row.sibling_of_equals asked
      cases found.symm.trans known
      exact differs sameKind
  | siblingType target asked other found conflict =>
      obtain ⟨again, known, -, agrees⟩ := row.sibling_of_equals asked
      cases found.symm.trans known
      exact conflict agrees

end

/-- The built-in registry refuses a rule with the first of its faults. -/
theorem builtin_resolve_error_iff {error : RuleError} :
    (Registry.builtinOver library).resolve record field rule = .error error ↔
      error.field = field.name ∧ error.fault.FirstOver library record field rule := by
  constructor
  · exact fun stopped => first_of_refuses (Registry.refuses_of_resolve stopped)
  · rintro ⟨named, first⟩
    cases resolved : (Registry.builtinOver library).resolve record field rule with
    | ok resolution => exact absurd first.1 (ruleTable_of_resolve resolved).not_applies
    | error other =>
        obtain ⟨alsoNamed, earliest⟩ := first_of_refuses (Registry.refuses_of_resolve resolved)
        have same : other.fault = error.fault := earliest.1.unique first.1
          (Nat.le_antisymm (earliest.2 _ first.1) (first.2 _ earliest.1))
        obtain ⟨name, reported⟩ := error
        obtain ⟨otherName, otherReported⟩ := other
        cases same
        cases alsoNamed.trans named.symm
        rfl

end

/-- The built-in registry implements its table over each library for patterns. -/
theorem registry_implements_table (library : Pattern.Library) (record : Record) (field : Field)
    (rule : Rule) :
    (∀ resolution, (Registry.builtinOver library).resolve record field rule = .ok resolution ↔
      RuleTableOver library record field rule resolution) ∧
    (∀ (argument : String) bound, Text.integerIn? (.signed 64) argument.toList = some bound ↔
      SpellsBound argument bound) ∧
    (∀ bound, -2 ^ 63 ≤ bound → bound < 2 ^ 63 →
      ((∀ range, integerRange? field.typeName = some range → range.contains bound = true) ↔
        field.Admits bound)) ∧
    ∀ error, (Registry.builtinOver library).resolve record field rule = .error error ↔
      error.field = field.name ∧ error.fault.FirstOver library record field rule :=
  ⟨fun _ => builtin_resolve_ok_iff, fun _ _ => integerIn?_word_iff,
    fun _ => range_contains_iff, fun _ => builtin_resolve_error_iff⟩

end FieldRules
