import FieldRules.Proofs.Registry.Table
import Mathlib.Tactic.Tauto

/-!
This file says what the built-in rules mean. The rule table lists the rules that resolve, and the
built-in registry resolves exactly the rules of the table.
-/

namespace FieldRules

/-- Two fields name one type, or one of them names none. -/
def Field.agreesWith (field other : Field) : Prop :=
  field.typeName = "" ∨ other.typeName = "" ∨ field.typeName = other.typeName

/-- Each row is a rule with its meaning; a library says what is a pattern. -/
inductive RuleTableOver (library : Pattern.Library) (record : Record) (field : Field) :
    Rule → Resolution → Prop
  | required (kind : field.kind = .text) :
      RuleTableOver library record field ⟨"req", none⟩ (.check .notEmpty)
  | email (kind : field.kind = .text) :
      RuleTableOver library record field ⟨"email", none⟩ (.check .email)
  | url (kind : field.kind = .text) :
      RuleTableOver library record field ⟨"url", none⟩ (.check .url)
  | ip (kind : field.kind = .text) :
      RuleTableOver library record field ⟨"ip", none⟩ (.check .ip)
  | regex (kind : field.kind = .text) (argument : String) (pattern : Pattern)
      (compiled : library argument = some pattern) :
      RuleTableOver library record field ⟨"regex", some argument⟩ (.check (.pattern pattern))
  | minLength (kind : field.kind = .text) (argument : String) (bound : Nat)
      (spelled : Text.integerIn? (.signed 64) argument.toList = some (bound : Int)) :
      RuleTableOver library record field ⟨"min", some argument⟩ (.check (.longerThan bound))
  | maxLength (kind : field.kind = .text) (argument : String) (bound : Nat)
      (spelled : Text.integerIn? (.signed 64) argument.toList = some (bound : Int)) :
      RuleTableOver library record field ⟨"max", some argument⟩ (.check (.shorterThan bound))
  | minValue (kind : field.kind = .integer) (argument : String) (bound : Int)
      (spelled : Text.integerIn? (.signed 64) argument.toList = some bound)
      (fits : ∀ range, integerRange? field.typeName = some range → range.contains bound = true) :
      RuleTableOver library record field ⟨"min", some argument⟩ (.check (.greaterThan bound))
  | maxValue (kind : field.kind = .integer) (argument : String) (bound : Int)
      (spelled : Text.integerIn? (.signed 64) argument.toList = some bound)
      (fits : ∀ range, integerRange? field.typeName = some range → range.contains bound = true) :
      RuleTableOver library record field ⟨"max", some argument⟩ (.check (.lessThan bound))
  | equals (kind : field.kind = .text ∨ field.kind = .integer) (target : String) (other : Field)
      (found : record.field? target = some other) (sameKind : other.kind = field.kind)
      (agrees : field.agreesWith other) :
      RuleTableOver library record field ⟨"equals", some target⟩ (.check (.equalsField target))
  | descend (kind : field.kind = .nested) (spelling : String)
      (known : spelling = "obj" ∨ spelling = "validate") :
      RuleTableOver library record field ⟨spelling, none⟩ .descend

/-- The table with the patterns that compile. -/
abbrev RuleTable (record : Record) (field : Field) : Rule → Resolution → Prop :=
  RuleTableOver Pattern.compile? record field

/-- The rule leads into a nested record, under one of its two spellings. -/
def Rule.Descends (rule : Rule) : Prop :=
  rule.keyword = "obj" ∨ rule.keyword = "validate"

instance (rule : Rule) : Decidable rule.Descends :=
  inferInstanceAs (Decidable (_ ∨ _))

/-- A rule of the table leads into a nested record if its spelling says so. -/
theorem RuleTableOver.eq_descend_iff {library : Pattern.Library} {record : Record} {field : Field} {rule : Rule}
    {resolution : Resolution} (row : RuleTableOver library record field rule resolution) :
    resolution = .descend ↔ rule.Descends := by
  cases row with
  | descend kind spelling known => exact iff_of_true rfl known
  | _ => simp [Rule.Descends]

/-- A rule that checks its field does not descend. -/
theorem RuleTableOver.not_descends {library : Pattern.Library} {record : Record} {field : Field} {rule : Rule} {test : FieldCheck}
    (row : RuleTableOver library record field rule (.check test)) : ¬rule.Descends := by
  intro descends
  cases row.eq_descend_iff.2 descends

/-- The sibling of an equality is a field of the record with the same kind. -/
theorem RuleTableOver.sibling_of_equals {library : Pattern.Library} {record : Record} {field : Field} {rule : Rule}
    {resolution : Resolution} (row : RuleTableOver library record field rule resolution) {target : String}
    (asked : rule = ⟨"equals", some target⟩) :
    ∃ other, record.field? target = some other ∧ other.kind = field.kind ∧
      field.agreesWith other := by
  cases row with
  | equals kind _ other found sameKind agrees =>
      cases asked
      exact ⟨other, found, sameKind, agrees⟩
  | descend kind spelling known => cases asked
  | _ => simp at asked

/-- A spelling is the canonical one of its keyword, or the second one of `descend`. -/
theorem Keyword.ofText?_eq_some_iff {name : String} {keyword : Keyword} :
    Keyword.ofText? name = some keyword ↔
      name = keyword.text ∨ name = "validate" ∧ keyword = .descend := by
  rw [Keyword.ofText?]
  split
  · next validate =>
      subst validate
      cases keyword <;> simp [Keyword.text]
  · next other =>
      constructor
      · intro found
        have same := List.find?_some found
        exact .inl (beq_iff_eq.1 same).symm
      · rintro (rfl | ⟨validate, -⟩)
        · cases keyword <;> rfl
        · exact absurd validate other

namespace Registry

theorem resolveKeyword_ok_iff {registry : Registry} {declaration : Declaration}
    {resolution : Resolution} :
    registry.resolveKeyword declaration = .ok resolution ↔
      ∃ resolver, registry.resolver? declaration.keyword declaration.field.kind = some resolver ∧
        declaration.argument.isSome = declaration.keyword.takesArgument ∧
        resolver declaration = .ok resolution := by
  rw [resolveKeyword]
  cases registry.resolver? declaration.keyword declaration.field.kind with
  | none => simp
  | some resolver =>
      cases declaration.keyword.takesArgument <;> cases declaration.argument <;> simp

/-- A rule resolves if its keyword has a resolver for the kind that accepts the argument. -/
theorem resolve_ok_iff {registry : Registry} {record : Record} {field : Field} {rule : Rule}
    {resolution : Resolution} :
    registry.resolve record field rule = .ok resolution ↔
      ∃ keyword resolver, Keyword.ofText? rule.keyword = some keyword ∧
        registry.resolver? keyword field.kind = some resolver ∧
        rule.argument.isSome = keyword.takesArgument ∧
        resolver ⟨record, field, keyword, rule⟩ = .ok resolution := by
  rw [resolve]
  cases Keyword.ofText? rule.keyword with
  | none => simp
  | some keyword => simp [resolveKeyword_ok_iff, Declaration.argument]

end Registry

theorem Resolver.blaming_ok_iff {read : Declaration → Except RuleFault Resolution}
    {declaration : Declaration} {resolution : Resolution} :
    Resolver.blaming read declaration = .ok resolution ↔ read declaration = .ok resolution := by
  rw [Resolver.blaming]
  cases read declaration <;> simp [Except.mapError]

theorem Resolver.patternOver_ok_iff {library : Pattern.Library} {declaration : Declaration}
    {resolution : Resolution} :
    Resolver.patternOver library declaration = .ok resolution ↔
      ∃ pattern, library declaration.argumentText = some pattern ∧
        resolution = .check (.pattern pattern) := by
  rw [Resolver.patternOver]
  cases library declaration.argumentText <;> simp [eq_comm]

namespace Declaration

/-- The argument spells the bound, which is a value of the type of an integer field. -/
def Bounds (declaration : Declaration) (bound : Int) : Prop :=
  Text.integerIn? (.signed 64) declaration.argumentText.toList = some bound ∧
    (declaration.field.kind = .integer → ∀ range,
      integerRange? declaration.field.typeName = some range → range.contains bound = true)

theorem integerBound_ok_iff {declaration : Declaration} {bound : Int} :
    declaration.integerBound = .ok bound ↔ declaration.Bounds bound := by
  rw [integerBound, Bounds]
  cases Text.integerIn? (.signed 64) declaration.argumentText.toList with
  | none => simp
  | some spelled =>
      by_cases integer : declaration.field.kind = .integer
      · cases integerRange? declaration.field.typeName with
        | none => simp [integer]
        | some range =>
            by_cases fits : range.contains spelled <;> simp [integer, fits]
            · rintro rfl
              exact fits
            · rintro rfl
              simpa using fits
      · simp [integer]

theorem lengthBound_ok_iff {declaration : Declaration} {bound : Nat} :
    declaration.lengthBound = .ok bound ↔ declaration.Bounds bound := by
  rw [lengthBound, ← integerBound_ok_iff]
  cases declaration.integerBound with
  | error fault => simp
  | ok spelled =>
      by_cases negative : spelled < 0
      · simp [negative]
        omega
      · simp [negative]
        omega

theorem sibling_ok_iff {declaration : Declaration} {target : String} :
    declaration.sibling = .ok target ↔ target = declaration.argumentText ∧
      ∃ other, declaration.record.field? target = some other ∧
        other.kind = declaration.field.kind ∧ declaration.field.agreesWith other := by
  rw [sibling]
  cases found : declaration.record.field? declaration.argumentText with
  | none =>
      constructor
      · intro resolved
        cases resolved
      · rintro ⟨rfl, other, known, -⟩
        cases found.symm.trans known
  | some other =>
      constructor
      · intro resolved
        dsimp only at resolved
        split at resolved
        · cases resolved
        · next sameKind =>
            split at resolved
            · cases resolved
            · next conflict =>
                cases resolved
                refine ⟨rfl, other, found, not_not.1 sameKind, ?_⟩
                simp only [Field.agreesWith]
                tauto
      · rintro ⟨rfl, known, same, sameKind, agrees⟩
        cases found.symm.trans same
        dsimp only
        rw [if_neg (not_not.2 sameKind), if_neg]
        simp only [Field.agreesWith] at agrees
        tauto

end Declaration

namespace Resolver

theorem length_ok_iff {check : Nat → FieldCheck} {declaration : Declaration}
    {resolution : Resolution} :
    Resolver.length check declaration = .ok resolution ↔
      ∃ bound : Nat, declaration.Bounds bound ∧ resolution = .check (check bound) := by
  simp only [← Declaration.lengthBound_ok_iff]
  rw [Resolver.length]
  cases declaration.lengthBound <;> simp [Except.map, eq_comm]

theorem value_ok_iff {check : Int → FieldCheck} {declaration : Declaration}
    {resolution : Resolution} :
    Resolver.value check declaration = .ok resolution ↔
      ∃ bound, declaration.Bounds bound ∧ resolution = .check (check bound) := by
  simp only [← Declaration.integerBound_ok_iff]
  rw [Resolver.value]
  cases declaration.integerBound <;> simp [Except.map, eq_comm]

theorem equality_ok_iff {declaration : Declaration} {resolution : Resolution} :
    Resolver.equality declaration = .ok resolution ↔
      ∃ target, declaration.sibling = .ok target ∧ resolution = .check (.equalsField target) := by
  rw [Resolver.equality]
  cases declaration.sibling <;> simp [Except.map, eq_comm]

end Resolver

/-- A keyword that takes no argument has a rule without one. -/
theorem argument_none {argument : Option String} (takes : argument.isSome = false) :
    argument = none :=
  Option.isSome_eq_false_iff.1 takes |> Option.isNone_iff_eq_none.1

/-- The built-in registry resolves a rule only as the table says. -/
theorem ruleTable_of_resolve {library : Pattern.Library} {record : Record} {field : Field} {rule : Rule}
    {resolution : Resolution}
    (resolved : (Registry.builtinOver library).resolve record field rule = .ok resolution) :
    RuleTableOver library record field rule resolution := by
  obtain ⟨keyword, resolver, spelled, known, takes, resolved⟩ :=
    Registry.resolve_ok_iff.1 resolved
  obtain ⟨spelling, argument⟩ := rule
  rw [Keyword.ofText?_eq_some_iff] at spelled
  dsimp only at spelled takes resolved
  have canonical (other : keyword ≠ .descend) : spelling = keyword.text :=
    spelled.resolve_right fun second => other second.2
  rw [Registry.resolver?_builtinOver] at known
  split at known <;> cases known
  · next kind =>
      cases resolved
      rw [canonical (by decide), argument_none takes]
      exact .required kind
  · next kind =>
      cases resolved
      rw [canonical (by decide), argument_none takes]
      exact .email kind
  · next kind =>
      cases resolved
      rw [canonical (by decide), argument_none takes]
      exact .url kind
  · next kind =>
      cases resolved
      rw [canonical (by decide), argument_none takes]
      exact .ip kind
  · next kind =>
      obtain ⟨argument, rfl⟩ := Option.isSome_iff_exists.1 takes
      obtain ⟨pattern, compiled, rfl⟩ :=
        Resolver.patternOver_ok_iff.1 (Resolver.blaming_ok_iff.1 resolved)
      rw [canonical (by decide)]
      exact .regex kind argument pattern compiled
  · next kind =>
      obtain ⟨argument, rfl⟩ := Option.isSome_iff_exists.1 takes
      obtain ⟨bound, ⟨spelled, -⟩, rfl⟩ :=
        Resolver.length_ok_iff.1 (Resolver.blaming_ok_iff.1 resolved)
      rw [canonical (by decide)]
      exact .minLength kind argument bound spelled
  · next kind =>
      obtain ⟨argument, rfl⟩ := Option.isSome_iff_exists.1 takes
      obtain ⟨bound, ⟨spelled, -⟩, rfl⟩ :=
        Resolver.length_ok_iff.1 (Resolver.blaming_ok_iff.1 resolved)
      rw [canonical (by decide)]
      exact .maxLength kind argument bound spelled
  · next kind =>
      obtain ⟨argument, rfl⟩ := Option.isSome_iff_exists.1 takes
      obtain ⟨bound, ⟨spelled, fits⟩, rfl⟩ :=
        Resolver.value_ok_iff.1 (Resolver.blaming_ok_iff.1 resolved)
      rw [canonical (by decide)]
      exact .minValue kind argument bound spelled (fits kind)
  · next kind =>
      obtain ⟨argument, rfl⟩ := Option.isSome_iff_exists.1 takes
      obtain ⟨bound, ⟨spelled, fits⟩, rfl⟩ :=
        Resolver.value_ok_iff.1 (Resolver.blaming_ok_iff.1 resolved)
      rw [canonical (by decide)]
      exact .maxValue kind argument bound spelled (fits kind)
  · next kind =>
      obtain ⟨argument, rfl⟩ := Option.isSome_iff_exists.1 takes
      obtain ⟨target, sibling, rfl⟩ :=
        Resolver.equality_ok_iff.1 (Resolver.blaming_ok_iff.1 resolved)
      obtain ⟨rfl, other, found, sameKind, agrees⟩ := Declaration.sibling_ok_iff.1 sibling
      rw [canonical (by decide)]
      exact .equals (.inl kind) _ other found sameKind agrees
  · next kind =>
      obtain ⟨argument, rfl⟩ := Option.isSome_iff_exists.1 takes
      obtain ⟨target, sibling, rfl⟩ :=
        Resolver.equality_ok_iff.1 (Resolver.blaming_ok_iff.1 resolved)
      obtain ⟨rfl, other, found, sameKind, agrees⟩ := Declaration.sibling_ok_iff.1 sibling
      rw [canonical (by decide)]
      exact .equals (.inr kind) _ other found sameKind agrees
  · next kind =>
      cases resolved
      rw [argument_none takes]
      exact .descend kind spelling (spelled.imp id And.left)

/-- The built-in registry resolves each rule of the table. -/
theorem resolve_of_ruleTable {library : Pattern.Library} {record : Record} {field : Field} {rule : Rule}
    {resolution : Resolution} (row : RuleTableOver library record field rule resolution) :
    (Registry.builtinOver library).resolve record field rule = .ok resolution := by
  rw [Registry.resolve_ok_iff]
  cases row with
  | required kind => exact ⟨.required, _, rfl, by rw [kind]; rfl, rfl, rfl⟩
  | email kind => exact ⟨.email, _, rfl, by rw [kind]; rfl, rfl, rfl⟩
  | url kind => exact ⟨.url, _, rfl, by rw [kind]; rfl, rfl, rfl⟩
  | ip kind => exact ⟨.ip, _, rfl, by rw [kind]; rfl, rfl, rfl⟩
  | regex kind argument pattern compiled =>
      exact ⟨.regex, _, rfl, by rw [kind]; rfl, rfl,
        Resolver.blaming_ok_iff.2 (Resolver.patternOver_ok_iff.2 ⟨pattern, compiled, rfl⟩)⟩
  | minLength kind argument bound spelled =>
      refine ⟨.min, _, rfl, by rw [kind]; rfl, rfl,
        Resolver.blaming_ok_iff.2 (Resolver.length_ok_iff.2 ⟨bound, ?_, rfl⟩)⟩
      exact ⟨spelled, fun integer => by cases kind.symm.trans integer⟩
  | maxLength kind argument bound spelled =>
      refine ⟨.max, _, rfl, by rw [kind]; rfl, rfl,
        Resolver.blaming_ok_iff.2 (Resolver.length_ok_iff.2 ⟨bound, ?_, rfl⟩)⟩
      exact ⟨spelled, fun integer => by cases kind.symm.trans integer⟩
  | minValue kind argument bound spelled fits =>
      exact ⟨.min, _, rfl, by rw [kind]; rfl, rfl,
        Resolver.blaming_ok_iff.2
          (Resolver.value_ok_iff.2 ⟨bound, ⟨spelled, fun _ => fits⟩, rfl⟩)⟩
  | maxValue kind argument bound spelled fits =>
      exact ⟨.max, _, rfl, by rw [kind]; rfl, rfl,
        Resolver.blaming_ok_iff.2
          (Resolver.value_ok_iff.2 ⟨bound, ⟨spelled, fun _ => fits⟩, rfl⟩)⟩
  | equals kind target other found sameKind agrees =>
      have sibling : Declaration.sibling ⟨record, field, .equals, ⟨"equals", some target⟩⟩ =
          .ok target :=
        Declaration.sibling_ok_iff.2 ⟨rfl, other, found, sameKind, agrees⟩
      refine ⟨.equals, .blaming Resolver.equality, rfl, ?_, rfl,
        Resolver.blaming_ok_iff.2 (Resolver.equality_ok_iff.2 ⟨target, sibling, rfl⟩)⟩
      rcases kind with kind | kind <;> rw [kind] <;> rfl
  | descend kind spelling known =>
      refine ⟨.descend, _, Keyword.ofText?_eq_some_iff.2 (known.imp id fun second => ⟨second, rfl⟩),
        by rw [kind]; rfl, rfl, rfl⟩

/-- The built-in registry resolves exactly the rules of the table. -/
theorem builtin_resolve_ok_iff {library : Pattern.Library} {record : Record} {field : Field} {rule : Rule}
    {resolution : Resolution} :
    (Registry.builtinOver library).resolve record field rule = .ok resolution ↔
      RuleTableOver library record field rule resolution :=
  ⟨ruleTable_of_resolve, resolve_of_ruleTable⟩

end FieldRules
