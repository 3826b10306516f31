import FieldRules.Proofs.Plan.Loop
import FieldRules.Proofs.Registry.Refusal
import FieldRules.Proofs.Tag.Diagnosis

/-!
This file says which error a record is refused with. A walk through the record and the records
nested in it meets faults at several positions; the error is the first of them, and it blames the
record and the field where it lies.
-/

namespace FieldRules

open Relation

/-- The numbers of a field and of its rule, then the position in the nested record. -/
abbrev Position := List Nat

/-! ### The faults of a walk -/

mutual

/-- The walk of a record can stop at the position, on a path of outer records. -/
inductive FaultAt (schema : Schema) : List String → Record → Position → CompileError → Prop
  | field {path : List String} {record : Record} {number : Nat} {field : Field}
      {position : Position} {error : CompileError} (known : record.fields[number]? = some field)
      (fault : FieldFaultAt schema path record field position error) :
      FaultAt schema path record (number :: position) error

/-- A malformed tag is a fault in front of all rules of its field. -/
inductive FieldFaultAt (schema : Schema) :
    List String → Record → Field → Position → CompileError → Prop
  | malformed {path : List String} {record : Record} {field : Field} {fault : MalformedTag}
      (unread : readTag field.name field.tag = .error fault) :
      FieldFaultAt schema path record field [] (.malformedTag record.name fault)
  | rule {path : List String} {record : Record} {field : Field} {rules : List Rule} {number : Nat}
      {rule : Rule} {position : Position} {error : CompileError}
      (read : readTag field.name field.tag = .ok rules) (known : rules[number]? = some rule)
      (fault : RuleFaultAt schema path record field rule position error) :
      FieldFaultAt schema path record field (number :: position) error

/-- A rule is at fault itself, or the record into which it descends is. -/
inductive RuleFaultAt (schema : Schema) :
    List String → Record → Field → Rule → Position → CompileError → Prop
  | refused {path : List String} {record : Record} {field : Field} {rule : Rule}
      {fault : RuleFault} (first : fault.First record field rule) :
      RuleFaultAt schema path record field rule [] (.rule record.name ⟨field.name, fault⟩)
  | unknown {path : List String} {record : Record} {field : Field} {rule : Rule}
      (row : RuleTable record field rule .descend)
      (missing : schema.record? field.typeName = none) :
      RuleFaultAt schema path record field rule []
        (.rule record.name ⟨field.name, .unknownRecord field.typeName⟩)
  | closing {path before between : List String} {record nested : Record} {field : Field}
      {rule : Rule} (row : RuleTable record field rule .descend)
      (found : schema.record? field.typeName = some nested)
      (split : path = before ++ field.typeName :: between) (first : field.typeName ∉ before) :
      RuleFaultAt schema path record field rule []
        (.cycle (field.typeName :: between ++ [field.typeName]))
  | nested {path : List String} {record nested : Record} {field : Field} {rule : Rule}
      {position : Position} {error : CompileError} (row : RuleTable record field rule .descend)
      (found : schema.record? field.typeName = some nested) (fresh : field.typeName ∉ path)
      (fault : FaultAt schema (path ++ [field.typeName]) nested position error) :
      RuleFaultAt schema path record field rule position error

end

/-! ### Results that are decided by the first fault -/

/-- The error is the only one at its position, and all other faults come later. -/
def IsFirst (faults : Position → CompileError → Prop) (position : Position)
    (error : CompileError) : Prop :=
  faults position error ∧
    ∀ other reason, faults other reason → position < other ∨ other = position ∧ reason = error

/-- A result is the first one of the faults, or there are no faults. -/
inductive StopsAtFirst {Result : Type} (faults : Position → CompileError → Prop) :
    Except CompileError Result → Prop
  | clean {result : Result} (faultless : ∀ position error, ¬faults position error) :
      StopsAtFirst faults (.ok result)
  | fault {position : Position} {error : CompileError} (first : IsFirst faults position error) :
      StopsAtFirst faults (.error error)

/-- The items have the faults of each item, behind the number of the item. -/
def Among {Item : Type} (faults : Item → Position → CompileError → Prop) (items : List Item)
    (position : Position) (error : CompileError) : Prop :=
  ∃ number item rest, items[number]? = some item ∧ position = number :: rest ∧
    faults item rest error

section

variable {Item Result : Type} {position : Position} {error : CompileError}

theorem StopsAtFirst.congr {faults others : Position → CompileError → Prop}
    {result : Except CompileError Result} (stops : StopsAtFirst faults result)
    (same : ∀ position error, faults position error ↔ others position error) :
    StopsAtFirst others result := by
  have equal : faults = others := by
    ext position error
    exact same position error
  rwa [← equal]

/-- A result has an error if and only if it is the first fault. -/
theorem StopsAtFirst.error_iff {faults : Position → CompileError → Prop}
    {result : Except CompileError Result} (stops : StopsAtFirst faults result) :
    result = .error error ↔
      ∃ position, faults position error ∧
        ∀ other reason, faults other reason → position ≤ other := by
  cases stops with
  | clean faultless =>
      refine iff_of_false nofun ?_
      rintro ⟨position, met, -⟩
      exact faultless position error met
  | @fault place reported first =>
      obtain ⟨met, first⟩ := first
      constructor
      · rintro ⟨⟩
        refine ⟨place, met, fun other reason another => ?_⟩
        rcases first other reason another with later | ⟨rfl, -⟩
        · exact le_of_lt later
        · exact le_refl _
      · rintro ⟨position, another, earliest⟩
        rcases first position error another with later | ⟨-, rfl⟩
        · exact absurd later (not_lt_of_ge (earliest place reported met))
        · rfl

variable {faults : Item → Position → CompileError → Prop} {item : Item} {items : List Item}

theorem among_cons_iff : Among faults (item :: items) position error ↔
    (∃ rest, position = 0 :: rest ∧ faults item rest error) ∨
      ∃ number rest, position = (number + 1) :: rest ∧
        Among faults items (number :: rest) error := by
  constructor
  · rintro ⟨number, other, rest, known, rfl, fault⟩
    cases number with
    | zero =>
        cases known
        exact .inl ⟨rest, rfl, fault⟩
    | succ number => exact .inr ⟨number, rest, rfl, number, other, rest, known, rfl, fault⟩
  · rintro (⟨rest, rfl, fault⟩ | ⟨number, rest, rfl, _, other, _, known, same, fault⟩)
    · exact ⟨0, item, rest, rfl, rfl, fault⟩
    · cases same
      exact ⟨number + 1, other, rest, known, rfl, fault⟩

/-- The first fault of the first item comes before the faults of all items behind it. -/
theorem IsFirst.head (first : IsFirst (faults item) position error) :
    IsFirst (Among faults (item :: items)) (0 :: position) error := by
  obtain ⟨met, first⟩ := first
  refine ⟨among_cons_iff.2 (.inl ⟨position, rfl, met⟩), fun other reason another => ?_⟩
  rcases among_cons_iff.1 another with ⟨rest, rfl, fault⟩ | ⟨number, rest, rfl, -⟩
  · rcases first rest reason fault with later | ⟨rfl, rfl⟩
    · exact .inl (by simpa [List.cons_lt_cons_iff] using later)
    · exact .inr ⟨rfl, rfl⟩
  · exact .inl (by simp [List.cons_lt_cons_iff])

/-- Behind an item without faults, the first fault of the other items stays the first one. -/
theorem IsFirst.tail {number : Nat} (faultless : ∀ position error, ¬faults item position error)
    (first : IsFirst (Among faults items) (number :: position) error) :
    IsFirst (Among faults (item :: items)) ((number + 1) :: position) error := by
  obtain ⟨met, first⟩ := first
  refine ⟨among_cons_iff.2 (.inr ⟨number, position, rfl, met⟩), fun other reason another => ?_⟩
  rcases among_cons_iff.1 another with ⟨rest, -, fault⟩ | ⟨further, rest, rfl, fault⟩
  · exact absurd fault (faultless rest reason)
  · rcases first _ reason fault with later | ⟨same, rfl⟩
    · exact .inl (by simpa [List.cons_lt_cons_iff] using later)
    · cases same
      exact .inr ⟨rfl, rfl⟩

/-- The first fault of all items is that of the first item with a fault. -/
theorem joinSteps_stopsAtFirst {visit : Item → Except CompileError (List Step)}
    (each : ∀ item ∈ items, StopsAtFirst (faults item) (visit item)) :
    StopsAtFirst (Among faults items) (joinSteps visit items) := by
  induction items with
  | nil =>
      refine .clean ?_
      rintro position error ⟨number, item, rest, known, -⟩
      simp at known
  | cons item items inductionHypothesis =>
      have later := inductionHypothesis fun other member =>
        each other (List.mem_cons_of_mem _ member)
      have now := each item List.mem_cons_self
      rw [joinSteps]
      generalize visit item = part at now
      generalize joinSteps visit items = others at later
      cases now with
      | fault first => exact .fault first.head
      | clean faultless =>
          cases later with
          | clean others =>
              refine .clean fun position error another => ?_
              rcases among_cons_iff.1 another with ⟨rest, -, fault⟩ | ⟨number, rest, -, fault⟩
              · exact faultless rest error fault
              · exact others _ error fault
          | fault first =>
              -- The position of a fault among items starts with the number of its item.
              obtain ⟨number, inside, rest, -, rfl, -⟩ := first.1
              exact .fault (first.tail faultless)

end

/-! ### The walk of the compiler -/

section

variable {schema : Schema} {path : List String} {record : Record} {field : Field} {rule : Rule}

theorem faultAt_iff {position : Position} {error : CompileError} :
    FaultAt schema path record position error ↔
      Among (FieldFaultAt schema path record) record.fields position error := by
  constructor
  · rintro ⟨known, fault⟩
    exact ⟨_, _, _, known, rfl, fault⟩
  · rintro ⟨number, field, rest, known, rfl, fault⟩
    exact .field known fault

theorem fieldFaultAt_iff {rules : List Rule} (read : readTag field.name field.tag = .ok rules)
    {position : Position} {error : CompileError} :
    FieldFaultAt schema path record field position error ↔
      Among (RuleFaultAt schema path record field) rules position error := by
  constructor
  · intro fault
    cases fault with
    | malformed unread => cases read.symm.trans unread
    | rule again known fault =>
        cases read.symm.trans again
        exact ⟨_, _, _, known, rfl, fault⟩
  · rintro ⟨number, rule, rest, known, rfl, fault⟩
    exact .rule read known fault

/-- A rule of the table is at fault only if it descends. -/
theorem RuleFaultAt.descends {resolution : Resolution}
    (row : RuleTable record field rule resolution) {position : Position} {error : CompileError}
    (fault : RuleFaultAt schema path record field rule position error) : resolution = .descend := by
  have resolved := builtin_resolve_ok_iff.2 row
  cases fault with
  | refused first => exact absurd first.1 row.not_applies
  | unknown descent | closing descent | nested descent =>
      exact Except.ok.inj (resolved.symm.trans (builtin_resolve_ok_iff.2 descent))

namespace Compiler

/-- A descent to a new name is decided by the faults of its record. -/
def StopsBelow (schema : Schema) (path : List String) (target : String) : Prop :=
  ∀ nested, schema.record? target = some nested → target ∉ path →
    StopsAtFirst (FaultAt schema (path ++ [target]) nested) ((ofSchema schema).direct path target)

/-- The rule that descends is at fault as the record is into which it descends. -/
theorem directNested_stopsAtFirst (row : RuleTable record field rule .descend)
    (below : StopsBelow schema path field.typeName) :
    StopsAtFirst (RuleFaultAt schema path record field rule)
      ((ofSchema schema).directNested ((ofSchema schema).direct path) record field rule) := by
  have harmless : ∀ fault : RuleFault, ¬fault.First record field rule :=
    fun fault first => row.not_applies first.1
  rw [directNested]
  simp only [ofSchema]
  split
  · next missing =>
      refine .fault ⟨.unknown row missing, fun other reason another => ?_⟩
      cases another with
      | refused first => exact absurd first (harmless _)
      | unknown => exact .inr ⟨rfl, rfl⟩
      | closing _ found | nested _ found => cases missing.symm.trans found
  · next nested found =>
      by_cases visited : field.typeName ∈ path
      · obtain ⟨before, between, rfl, first⟩ := List.eq_append_cons_of_mem visited
        rw [direct_known found, if_neg (by simp), loop_append_cons first]
        refine .fault ⟨.closing row found rfl first, fun other reason another => ?_⟩
        cases another with
        | refused first => exact absurd first (harmless _)
        | unknown _ missing => cases missing.symm.trans found
        | closing _ _ split earliest =>
            have same : loop (before ++ field.typeName :: between) field.typeName = _ :=
              loop_append_cons first
            rw [split, loop_append_cons earliest] at same
            exact .inr ⟨rfl, by rw [same]⟩
        | nested _ _ fresh => exact absurd visited fresh
      · have inside : ∀ position error,
            FaultAt schema (path ++ [field.typeName]) nested position error ↔
              RuleFaultAt schema path record field rule position error := by
          intro position error
          constructor
          · exact fun fault => .nested row found visited fault
          · intro fault
            cases fault with
            | refused first => exact absurd first (harmless _)
            | unknown _ missing => cases missing.symm.trans found
            | closing _ _ split => exact absurd (by simp [split]) visited
            | nested _ again _ fault =>
                cases found.symm.trans again
                exact fault
        have stops := (below nested found visited).congr inside
        simp only [ofSchema] at stops
        generalize direct _ path field.typeName = descended at stops
        cases stops with
        | clean faultless => exact .clean faultless
        | fault first => exact .fault first

theorem directRule_stopsAtFirst (below : StopsBelow schema path field.typeName) :
    StopsAtFirst (RuleFaultAt schema path record field rule)
      ((ofSchema schema).directRule ((ofSchema schema).direct path) record field rule) := by
  rw [directRule]
  split
  · next error refused =>
      obtain ⟨named, first⟩ := builtin_resolve_error_iff.1 refused
      obtain ⟨name, fault⟩ := error
      cases named
      refine .fault ⟨.refused first, fun other reason another => ?_⟩
      cases another with
      | refused second =>
          have again : Registry.builtin.resolve record field rule = .error ⟨field.name, _⟩ :=
            builtin_resolve_error_iff.2 ⟨rfl, second⟩
          cases refused.symm.trans again
          exact .inr ⟨rfl, rfl⟩
      | unknown row | closing row | nested row => exact absurd first.1 row.not_applies
  · next check resolved =>
      refine .clean fun position error fault => ?_
      cases fault.descends (builtin_resolve_ok_iff.1 resolved)
  · next resolved => exact directNested_stopsAtFirst (builtin_resolve_ok_iff.1 resolved) below

/-- The whole tag is read in front of the first rule. -/
theorem directField_stopsAtFirst (below : StopsBelow schema path field.typeName) :
    StopsAtFirst (FieldFaultAt schema path record field)
      ((ofSchema schema).directField ((ofSchema schema).direct path) record field) := by
  rw [directField]
  split
  · next unread =>
      refine .fault ⟨.malformed unread, fun other reason another => ?_⟩
      cases another with
      | malformed again =>
          cases unread.symm.trans again
          exact .inr ⟨rfl, rfl⟩
      | rule read => cases unread.symm.trans read
  · next rules read =>
      have each : ∀ rule ∈ rules, StopsAtFirst (RuleFaultAt schema path record field rule)
          ((ofSchema schema).directRule ((ofSchema schema).direct path) record field rule) :=
        fun rule _ => directRule_stopsAtFirst below
      exact (joinSteps_stopsAtFirst each).congr fun position error => (fieldFaultAt_iff read).symm

theorem directBuild_stopsAtFirst (below : ∀ target, StopsBelow schema path target) :
    StopsAtFirst (FaultAt schema path record)
      ((ofSchema schema).directBuild ((ofSchema schema).direct path) record) := by
  have each : ∀ field ∈ record.fields, StopsAtFirst (FieldFaultAt schema path record field)
      ((ofSchema schema).directField ((ofSchema schema).direct path) record field) :=
    fun field _ => directField_stopsAtFirst (below field.typeName)
  have stops := (joinSteps_stopsAtFirst each).congr fun position error => faultAt_iff.symm
  rw [directBuild]
  generalize joinSteps _ record.fields = joined at stops
  cases stops with
  | clean faultless => exact .clean faultless
  | fault first => exact .fault first

/-- The paths grow on the way to nested records until a name comes back. -/
theorem direct_stopsAtFirst {name : String} (found : schema.record? name = some record)
    (fresh : name ∉ path) :
    StopsAtFirst (FaultAt schema (path ++ [name]) record) ((ofSchema schema).direct path name) := by
  induction path, name using direct.induct (ofSchema schema) generalizing record with
  | case1 path name missing => cases missing.symm.trans found
  | case2 path name other known unvisited inductionHypothesis =>
      cases known.symm.trans found
      rw [direct_known known, if_pos unvisited]
      exact directBuild_stopsAtFirst fun target nested => inductionHypothesis target
  | case3 path name other known visited => simp [fresh] at visited

end Compiler

end

/-! ### Where a fault lies -/

/-- The error names the record, and a field of it that has a tag. -/
inductive LiesIn (schema : Schema) (record : Record) : CompileError → Prop
  | malformedTag {field : Field} (member : field ∈ record.fields) (tagged : field.isTagged = true)
      {fault : MalformedTag} (named : fault.field = field.name) (raw : fault.tag = field.tag) :
      LiesIn schema record (.malformedTag record.name fault)
  | rule {field : Field} (member : field ∈ record.fields) (tagged : field.isTagged = true)
      {fault : RuleFault} (absent : ∀ target, fault = .unknownRecord target →
        target = field.typeName ∧ ∀ other ∈ schema.records, other.name ≠ target) :
      LiesIn schema record (.rule record.name ⟨field.name, fault⟩)
  | cycle {first : String} (nests : record.Nests first) (between : List String) :
      LiesIn schema record (.cycle (first :: between ++ [first]))

section

variable {schema : Schema} {path : List String} {record : Record} {field : Field} {rule : Rule}
variable {position : Position} {error : CompileError}

theorem isTagged_of_readTag (read : readTag field.name field.tag ≠ .ok []) :
    field.isTagged = true := by
  by_contra untagged
  exact read (readTag_of_untagged (by simpa using untagged))

/-- A fault lies in the record or in a nested record at a shorter position. -/
theorem FaultAt.liesIn_or_nested (fault : FaultAt schema path record position error) :
    LiesIn schema record error ∨
      ∃ target nested deeper, record.Nests target ∧ schema.record? target = some nested ∧
        deeper.length < position.length ∧
        FaultAt schema (path ++ [target]) nested deeper error := by
  cases fault with
  | field known fault =>
      have member := List.mem_of_getElem? known
      cases fault with
      | malformed unread =>
          have tagged := isTagged_of_readTag (by rw [unread]; simp)
          obtain ⟨before, piece, after, reason, -, -, -, rfl⟩ := readTag_error unread
          exact .inl (.malformedTag member tagged rfl rfl)
      | rule read ruleKnown fault =>
          have inside := List.mem_of_getElem? ruleKnown
          have tagged := isTagged_of_readTag (by rw [read, ne_eq]; rintro ⟨⟩; cases inside)
          cases fault with
          | refused first =>
              refine .inl (.rule member tagged ?_)
              rintro target rfl
              cases first.1
          | unknown row missing =>
              refine .inl (.rule member tagged ?_)
              rintro target ⟨⟩
              refine ⟨rfl, fun other otherMember => ?_⟩
              simpa using List.find?_eq_none.1 missing other otherMember
          | closing row => exact .inl (.cycle (nests_of_row member read inside row) _)
          | nested row found fresh fault =>
              have nests := nests_of_row member read inside row
              refine .inr ⟨_, _, _, nests, found, ?_, fault⟩
              simp only [List.length_cons]
              omega

/-- The record in which a fault lies is reached by nesting. -/
theorem FaultAt.exists_liesIn (fault : FaultAt schema path record position error)
    (found : schema.record? record.name = some record) :
    ∃ reached blamed, ReflTransGen schema.Nests record.name reached ∧
      schema.record? reached = some blamed ∧ LiesIn schema blamed error := by
  generalize size : position.length = length
  induction length using Nat.strong_induction_on generalizing path record position with
  | _ length inductionHypothesis =>
      rcases fault.liesIn_or_nested with lies | ⟨target, nested, deeper, nests, known, less, below⟩
      · exact ⟨record.name, record, .refl, found, lies⟩
      · have named := Schema.record?_name known
        rw [← named] at known nests
        obtain ⟨reached, blamed, reaches, last, lies⟩ :=
          inductionHypothesis deeper.length (size ▸ less) below known rfl
        exact ⟨reached, blamed, .head ⟨record, found, nests⟩ reaches, last, lies⟩

end

/-- A record is refused with the fault at the first position of its walk. -/
theorem records_are_refused_with_first_fault {schema : Schema} {name : String} {record : Record}
    (found : schema.record? name = some record) :
    (∀ error, (Compiler.ofSchema schema).compile name = .error error ↔
      ∃ position, FaultAt schema [name] record position error ∧
        ∀ other reason, FaultAt schema [name] record other reason → position ≤ other) ∧
    ∀ error, (Compiler.ofSchema schema).compile name = .error error →
      ∃ reached blamed, ReflTransGen schema.Nests name reached ∧
        schema.record? reached = some blamed ∧ LiesIn schema blamed error := by
  have stops : StopsAtFirst (FaultAt schema [name] record)
      ((Compiler.ofSchema schema).direct [] name) :=
    Compiler.direct_stopsAtFirst found List.not_mem_nil
  rw [← Compiler.compile_eq_direct] at stops
  refine ⟨fun error => stops.error_iff, fun error stopped => ?_⟩
  obtain ⟨position, fault, -⟩ := stops.error_iff.1 stopped
  have named := Schema.record?_name found
  rw [← named] at found ⊢
  exact fault.exists_liesIn found

/-- The line has a rule that nobody knows, and the next tag is torn. -/
def tornOrder : Record :=
  ⟨"Order", "", [⟨"code", .text, "", "req"⟩, ⟨"line", .nested, "Line", "obj"⟩,
    ⟨"note", .text, "", "min("⟩]⟩

def tornSchema : Schema :=
  ⟨[tornOrder, ⟨"Line", "", [⟨"count", .integer, "", "wat,min(2)"⟩]⟩]⟩

theorem compile_tornOrder : (Compiler.ofSchema tornSchema).compile "Order" =
    .error (.rule "Line" ⟨"count", .unknownKeyword "wat" .integer⟩) := by
  have line : (Compiler.ofSchema tornSchema).direct ["Order"] "Line" =
      .error (.rule "Line" ⟨"count", .unknownKeyword "wat" .integer⟩) := by
    rw [Compiler.direct_known (by rfl), if_pos (by decide)]
    rfl
  have stopped : (Compiler.ofSchema tornSchema).directBuild
      (fun _ => .error (.rule "Line" ⟨"count", .unknownKeyword "wat" .integer⟩)) tornOrder =
        .error (.rule "Line" ⟨"count", .unknownKeyword "wat" .integer⟩) := rfl
  rw [Compiler.compile_eq_direct, Compiler.direct_known (show _ = some tornOrder from rfl),
    if_pos (by decide), ← stopped]
  apply Compiler.directBuild_congr
  intro target leads
  obtain ⟨field, fieldMember, kind, rfl, -⟩ := Compiler.nests_of_leads leads
  simp only [tornOrder, List.mem_cons, List.not_mem_nil, or_false] at fieldMember
  rcases fieldMember with rfl | rfl | rfl
  · cases kind
  · exact line
  · cases kind

theorem records_are_refused_with_first_fault_of_tornOrder :
    tornSchema.record? "Order" = some tornOrder ∧
    FaultAt tornSchema ["Order"] tornOrder [2]
      (.malformedTag "Order" ⟨"note", "min(", "min(", .unclosedParen⟩) ∧
    ∃ position, FaultAt tornSchema ["Order"] tornOrder position
      (.rule "Line" ⟨"count", .unknownKeyword "wat" .integer⟩) ∧ position ≤ [2] := by
  have torn : FaultAt tornSchema ["Order"] tornOrder [2]
      (.malformedTag "Order" ⟨"note", "min(", "min(", .unclosedParen⟩) :=
    .field (show tornOrder.fields[2]? = some _ from rfl) (.malformed rfl)
  have found : tornSchema.record? "Order" = some tornOrder := rfl
  have refusal := records_are_refused_with_first_fault found
  obtain ⟨position, fault, earliest⟩ := (refusal.1 _).1 compile_tornOrder
  exact ⟨found, torn, position, fault, earliest [2] _ torn⟩

end FieldRules
