import FieldRules.Proofs.Plan.Execution
import FieldRules.Proofs.Plan.Meaning
import FieldRules.Proofs.Plan.Table

/-!
This file says which field each message of a plan names. A message names the field of the step that
gives it, at every depth, and there is one exception: a comparison that cannot read its sibling
names the sibling.
-/

namespace FieldRules

/-- A visit is a step with the live record on which it runs. -/
structure Visit where
  data : Data
  step : Step

mutual

/-- A step is visited itself, and then the steps of a nested record. -/
def Step.visits (data : Data) : Step → List Visit
  | .check site test => [⟨data, .check site test⟩]
  | .deferred site typeName => [⟨data, .deferred site typeName⟩]
  | .nested site record namespaceName steps =>
      ⟨data, .nested site record namespaceName steps⟩ ::
        match data.member? site.field with
        | some (.table members) => Step.visitsAll (.table members) steps
        | _ => []

def Step.visitsAll (data : Data) : List Step → List Visit
  | [] => []
  | step :: steps => step.visits data ++ Step.visitsAll data steps

end

/-- The steps that a plan runs on live data, at every depth and in their order. -/
def Plan.visits (plan : Plan) (data : Data) : List Visit :=
  Step.visitsAll data plan.steps

/-- The kind as which a comparison reads both of its values. -/
def Site.comparedKind (site : Site) : Kind :=
  if site.kind = .integer then .integer else .text

namespace Visit

/-- The message that a step gives of itself, without those of nested steps. -/
def message? : Visit → Option Message
  | ⟨data, .check site test⟩ => test.run site data
  | ⟨_, .deferred site typeName⟩ => some (unresolvedRecord site.field typeName)
  | ⟨data, .nested site ..⟩ =>
      match data.member? site.field with
      | none => some (missingField site.field)
      | some .null => none
      | some (.table _) => none
      | some found => some (typeMismatch site.field .nested found)

/-- The name of the field on which the step was declared. -/
def field (visit : Visit) : String :=
  visit.step.site.field

/-- A comparison blames a sibling that is missing or has the wrong shape. -/
inductive Blames (visit : Visit) : String → Message → Prop
  | missing {site : Site} {target : String} (asked : visit.step = .check site (.equalsField target))
      {own : Data} (present : visit.data.member? site.field = some own)
      (absent : visit.data.member? target = none) : Blames visit target (missingField target)
  | mismatch {site : Site} {target : String}
      (asked : visit.step = .check site (.equalsField target)) {own sibling : Data}
      (present : visit.data.member? site.field = some own)
      (accepted : site.comparedKind.accepts own = true)
      (found : visit.data.member? target = some sibling)
      (refused : site.comparedKind.accepts sibling = false) :
      Blames visit target (typeMismatch target site.comparedKind sibling)

end Visit

/-! ### Messages of visits -/

mutual

theorem Step.run_messages_eq_visits (data : Data) : ∀ step : Step,
    (step.run data).messages = (step.visits data).filterMap Visit.message?
  | .check site test => by
      rw [Step.run, Step.visits, Report.ofOutcome_messages, List.filterMap_cons, Visit.message?]
      cases test.run site data <;> rfl
  | .deferred site typeName => by
      rw [Step.run, Step.visits]
      rfl
  | .nested site record namespaceName steps => by
      rw [Step.run, Step.visits, List.filterMap_cons, Visit.message?]
      cases data.member? site.field with
      | none => rfl
      | some found =>
          cases found with
          | table members => exact Step.runAll_messages_eq_visits (.table members) steps
          | _ => rfl

/-- The messages of a run are those of the visited steps, in order. -/
theorem Step.runAll_messages_eq_visits (data : Data) : ∀ steps : List Step,
    (Step.runAll data steps).messages = (Step.visitsAll data steps).filterMap Visit.message?
  | [] => rfl
  | step :: steps => by
      rw [Step.runAll, Step.visitsAll, Report.append_messages, List.filterMap_append,
        Step.run_messages_eq_visits data step, Step.runAll_messages_eq_visits data steps]

end

/-! ### Fields of messages -/

/-- If the outcome has a message, the message names the field. -/
def NamesField (outcome : Outcome) (field : String) : Prop :=
  ∀ message, outcome = some message → message.field = field

theorem namesField_outcome (passes : Bool) (field code text : String) :
    NamesField (Check.outcome passes field code text) field := by
  intro message given
  rw [Check.outcome] at given
  split at given <;> cases given
  rfl

theorem namesField_checkRead {Value : Type} {value : Except Message Value} {field : String}
    {check : Value → Outcome} (unread : ∀ message, value = .error message → message.field = field)
    (read : ∀ input, NamesField (check input) field) : NamesField (checkRead value check) field := by
  intro message given
  cases value with
  | error other =>
      cases given
      exact unread message rfl
  | ok input => exact read input message given

/-- A reader of values takes the values of one kind and reports all others. -/
structure Reads (kind : Kind) {Value : Type} (read : String → Data → Except Message Value) :
    Prop where
  accepts : ∀ field found, kind.accepts found = true → ∃ value, read field found = .ok value
  refuses : ∀ field found, kind.accepts found = false →
    read field found = .error (typeMismatch field kind found)

theorem reads_textIn : Reads .text Data.textIn where
  accepts field found accepted := by
    cases found <;> first | exact ⟨_, rfl⟩ | cases accepted
  refuses field found refused := by
    cases found <;> first | rfl | cases refused

theorem reads_integerIn : Reads .integer Data.integerIn where
  accepts field found accepted := by
    cases found <;> first | exact ⟨_, rfl⟩ | cases accepted
  refuses field found refused := by
    cases found <;> first | rfl | cases refused

/-- A value that cannot be read is reported for its own field. -/
theorem Reads.namesField {kind : Kind} {Value : Type}
    {read : String → Data → Except Message Value} (reads : Reads kind read) {field : String} {found : Data}
    {check : Value → Outcome} (named : ∀ input, NamesField (check input) field) :
    NamesField (checkRead (read field found) check) field := by
  refine namesField_checkRead (fun message unread => ?_) named
  cases accepted : kind.accepts found with
  | true =>
      obtain ⟨value, known⟩ := reads.accepts field found accepted
      cases known.symm.trans unread
  | false =>
      cases (reads.refuses field found accepted).symm.trans unread
      rfl

section

variable {Value : Type} [DecidableEq Value] {read : String → Data → Except Message Value}
  {site : Site} {target : String} {data own : Data} {message : Message}

/-- A comparison names its own field or blames its sibling. -/
theorem Reads.names_or_blames (reads : Reads site.comparedKind read)
    (present : data.member? site.field = some own)
    (given : equalFields read site.field target own data = some message) :
    message.field = site.field ∨
      Visit.Blames ⟨data, .check site (.equalsField target)⟩ target message := by
  rw [equalFields, Data.fieldValue] at given
  cases sought : data.member? target with
  | none =>
      rw [sought] at given
      cases given
      exact .inr (.missing rfl present sought)
  | some sibling =>
      rw [sought] at given
      dsimp only [checkRead] at given
      cases accepted : site.comparedKind.accepts own with
      | false =>
          rw [reads.refuses _ _ accepted] at given
          cases given
          exact .inl rfl
      | true =>
          obtain ⟨value, known⟩ := reads.accepts site.field own accepted
          rw [known] at given
          cases acceptedSibling : site.comparedKind.accepts sibling with
          | false =>
              rw [reads.refuses _ _ acceptedSibling] at given
              cases given
              exact .inr (.mismatch rfl present accepted sought acceptedSibling)
          | true =>
              obtain ⟨other, alsoKnown⟩ := reads.accepts target sibling acceptedSibling
              rw [alsoKnown] at given
              exact .inl (namesField_outcome _ _ _ _ message given)

/-- A comparison that blames its sibling gives the message for it. -/
theorem Reads.equalFields_of_blames (reads : Reads site.comparedKind read)
    (present : data.member? site.field = some own)
    (blames : Visit.Blames ⟨data, .check site (.equalsField target)⟩ target message) :
    equalFields read site.field target own data = some message := by
  rw [equalFields, Data.fieldValue]
  cases blames with
  | missing _ _ absent =>
      rw [absent]
      rfl
  | mismatch asked known accepted sought refused =>
      cases asked
      cases present.symm.trans known
      obtain ⟨value, ofOwn⟩ := reads.accepts site.field own accepted
      rw [sought]
      dsimp only [checkRead]
      rw [ofOwn, reads.refuses _ _ refused]

end

theorem reads_comparedKind_of_integer {site : Site} (integer : site.kind = .integer) :
    Reads site.comparedKind Data.integerIn := by
  rw [Site.comparedKind, if_pos integer]
  exact reads_integerIn

theorem reads_comparedKind_of_text {site : Site} (other : site.kind ≠ .integer) :
    Reads site.comparedKind Data.textIn := by
  rw [Site.comparedKind, if_neg other]
  exact reads_textIn

/-- A check names its own field or blames its sibling. -/
theorem FieldCheck.names_or_blames {test : FieldCheck} {site : Site} {data : Data}
    {message : Message} (given : test.run site data = some message) :
    message.field = site.field ∨
      ∃ target, Visit.Blames ⟨data, .check site test⟩ target message := by
  rw [run] at given
  cases present : data.member? site.field with
  | none =>
      rw [Data.fieldValue, present] at given
      cases given
      exact .inl rfl
  | some own =>
      rw [Data.fieldValue, present] at given
      dsimp only [checkRead] at given
      cases test with
      | equalsField target =>
          dsimp only at given
          split at given
          · next integer =>
              exact ((reads_comparedKind_of_integer integer).names_or_blames present given).imp id
                fun blames => ⟨target, blames⟩
          · next other =>
              exact ((reads_comparedKind_of_text other).names_or_blames present given).imp id
                fun blames => ⟨target, blames⟩
      | greaterThan | lessThan =>
          exact .inl (reads_integerIn.namesField (fun _ => namesField_outcome _ _ _ _) _ given)
      | _ => exact .inl (reads_textIn.namesField (fun _ => namesField_outcome _ _ _ _) _ given)

namespace Visit

/-- A message names the field of its step, or the step blames its sibling. -/
theorem names_or_blames {visit : Visit} {message : Message} (given : visit.message? = some message) :
    message.field = visit.field ∨ ∃ target, visit.Blames target message := by
  obtain ⟨data, step⟩ := visit
  cases step with
  | check site test => exact test.names_or_blames given
  | deferred site typeName =>
      cases given
      exact .inl rfl
  | nested site record namespaceName steps =>
      rw [message?] at given
      split at given <;> cases given <;> exact .inl rfl

theorem Blames.asked {visit : Visit} {target : String} {message : Message}
    (blames : visit.Blames target message) :
    ∃ site own, visit.step = .check site (.equalsField target) ∧
      visit.data.member? site.field = some own := by
  cases blames with
  | missing asked present _ => exact ⟨_, _, asked, present⟩
  | mismatch asked present _ _ _ => exact ⟨_, _, asked, present⟩

/-- A step that blames its sibling gives that message. -/
theorem Blames.message?_eq_some {visit : Visit} {target : String} {message : Message}
    (blames : visit.Blames target message) : visit.message? = some message := by
  obtain ⟨site, own, asked, present⟩ := blames.asked
  obtain ⟨data, step⟩ := visit
  cases asked
  rw [Visit.message?, FieldCheck.run, Data.fieldValue, present]
  dsimp only [checkRead]
  split
  · next integer => exact (reads_comparedKind_of_integer integer).equalFields_of_blames present blames
  · next other => exact (reads_comparedKind_of_text other).equalFields_of_blames present blames

/-- The message names the sibling, which is another field than that of the step. -/
theorem Blames.field_eq {visit : Visit} {target : String} {message : Message}
    (blames : visit.Blames target message) : message.field = target ∧ target ≠ visit.field := by
  cases blames with
  | @missing site _ asked own present absent =>
      have named : visit.field = site.field := by rw [Visit.field, asked, Step.site]
      refine ⟨rfl, fun same => ?_⟩
      rw [same, named, present] at absent
      cases absent
  | @mismatch site _ asked own sibling present accepted found refused =>
      have named : visit.field = site.field := by rw [Visit.field, asked, Step.site]
      refine ⟨rfl, fun same => ?_⟩
      rw [same, named, present] at found
      cases found
      cases accepted.symm.trans refused

end Visit

/-! ### Plans -/

/-- A message names the field of its step, or the sibling that is blamed. -/
theorem messages_name_field_or_sibling (plan : Plan) (data : Data) :
    (plan.execute data).messages = (plan.visits data).filterMap Visit.message? ∧
    ∀ visit ∈ plan.visits data,
      (∀ message, visit.message? = some message →
        message.field = visit.field ∨ ∃ target, visit.Blames target message) ∧
      ∀ target message, visit.Blames target message →
        visit.message? = some message ∧ message.field = target ∧ target ≠ visit.field :=
  ⟨Step.runAll_messages_eq_visits data plan.steps, fun _ _ =>
    ⟨fun _ => Visit.names_or_blames, fun _ _ blames => ⟨blames.message?_eq_some, blames.field_eq⟩⟩⟩

/-- The second password of a signup has to be the first one again. -/
def signup : Record :=
  ⟨"Signup", "", [⟨"password", .text, "", ""⟩, ⟨"confirm", .text, "", "equals(password)"⟩]⟩

def signupSite : Site :=
  ⟨"confirm", .text, ⟨"equals", some "password"⟩⟩

def signupPlan : Plan :=
  ⟨"Signup", "", [.check signupSite (.equalsField "password")]⟩

/-- A signup in which only the second password is there. -/
def bareSignup : Data :=
  .table [("confirm", .text "secret")]

theorem messages_name_field_or_sibling_of_signup :
    ∃ visit ∈ signupPlan.visits bareSignup, ∃ message, visit.message? = some message ∧
      (message.field = visit.field ∨ ∃ target, visit.Blames target message) := by
  obtain ⟨-, each⟩ := messages_name_field_or_sibling signupPlan bareSignup
  have member : ⟨bareSignup, .check signupSite (.equalsField "password")⟩ ∈
      signupPlan.visits bareSignup := List.mem_singleton_self _
  have given : Visit.message? ⟨bareSignup, .check signupSite (.equalsField "password")⟩ =
      some (missingField "password") := rfl
  exact ⟨_, member, _, given, (each _ member).1 _ given⟩

/-- The rule stands on the second password, and its message names the first one. -/
theorem message_names_missing_sibling :
    (Compiler.ofSchema ⟨[signup]⟩).compile "Signup" = .ok (some signupPlan) ∧
    ∃ visit ∈ signupPlan.visits bareSignup, ∃ message,
      visit.message? = some message ∧ visit.field = "confirm" ∧ message.field = "password" ∧
      (signupPlan.execute bareSignup).messages = [message] := by
  refine ⟨Compiler.compile_ok_iff.2 ⟨_, rfl, rfl⟩, ?_⟩
  exact ⟨⟨bareSignup, .check signupSite (.equalsField "password")⟩,
    List.mem_singleton_self _, missingField "password", rfl, rfl, rfl, rfl⟩

end FieldRules
