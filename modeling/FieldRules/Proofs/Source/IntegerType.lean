import FieldRules.Proofs.Registry.IntegerType
import FieldRules.Proofs.Source.Token
import FieldRules.Source.Type
import Mathlib.Data.List.Nodup

/-!
This file compares the two ways to recognize an integer type. The kind of a field looks for a last
name through references, parentheses and empty arguments. The range of a bound looks at the printed
name behind its last double colon, so it misses what stands around the name of the integer.
-/

namespace FieldRules.Source

open Token (IsPlain ArePlain shown)

/-! ### Forms -/

/-- A path ends in its last name or in empty arguments of it. -/
inductive PathForm.EndsIn (name : String) : List Token → Prop
  | single : EndsIn name [.word name]
  | behind (front : List Token) : EndsIn name (front ++ colons ++ [.word name])
  | closed (front : List Token) : EndsIn name (front ++ [.single '>'])

/-- A type is a path, stands in parentheses or is a reference. -/
inductive TypeForm.EndsIn (name : String) : List Token → Prop
  | path {tokens : List Token} (ends : PathForm.EndsIn name tokens) : EndsIn name tokens
  | group (inner : List Token) : EndsIn name [.group .round inner]
  | reference {lifetime mutability target : List Token}
      (named : lifetime = [] ∨ ∃ word, lifetime = Token.lifetime word ∧ ':' ∉ word.toList)
      (mutable : mutability = [] ∨ mutability = [.word "mut"]) (ends : EndsIn name target) :
      EndsIn name (.single '&' :: lifetime ++ mutability ++ target)

theorem PathForm.EndsIn.behind_colons {name : String} {tokens : List Token}
    (ends : PathForm.EndsIn name tokens) (front : List Token) :
    PathForm.EndsIn name (front ++ colons ++ tokens) := by
  cases ends with
  | single => exact .behind front
  | behind others =>
      rw [← List.append_assoc, ← List.append_assoc]
      exact .behind (front ++ colons ++ others)
  | closed others =>
      rw [← List.append_assoc]
      exact .closed (front ++ colons ++ others)

/-! ### Paths -/

/-- The path that is a single name with arguments, which have no text without an opening. -/
def PathForm.ofName (word : String) (opening : List Token) (arguments : List Argument) : PathForm :=
  ⟨if arguments.isEmpty then some word else none, true, opening.isEmpty, .word word ::
    if opening.isEmpty then [] else opening ++ orderedArguments arguments ++ [Token.single '>']⟩

/-- A path goes on behind two colons, unless a parenthesis follows them. -/
def PathForm.readOn? (steps : Nat) (here : PathForm) (rest : List Token) :
    Option (PathForm × List Token) :=
  if startsWithColons rest && !startsWithRound (rest.drop 2) then
    (readSegments? steps (rest.drop 2)).bind fun (others, rest) =>
      some (⟨others.lastName, false, here.isBare && others.isBare,
        here.tokens ++ colons ++ others.tokens⟩, rest)
  else some (here, rest)

section

variable {name : String} {steps : Nat} {tokens rest : List Token} {path : PathForm}

theorem exists_name_of_readSegments? (read : readSegments? (steps + 1) tokens = some (path, rest)) :
    ∃ word opening arguments further,
      (PathForm.ofName word opening arguments).readOn? steps further = some (path, rest) := by
  unfold readSegments? at read
  split at read
  · next word after =>
      split at read
      · cases read
      · simp only [Option.bind_eq_bind] at read
        split at read
        · obtain ⟨⟨opening, arguments, further⟩, -, read⟩ := Option.bind_eq_some_iff.1 read
          exact ⟨word, opening, arguments, further, read⟩
        · split at read
          · obtain ⟨⟨opening, arguments, further⟩, -, read⟩ := Option.bind_eq_some_iff.1 read
            exact ⟨word, opening, arguments, further, read⟩
          · exact ⟨word, [], [], after, read⟩
  · cases read

theorem PathForm.endsIn_ofName {word : String} {opening : List Token} {arguments : List Argument}
    (named : (PathForm.ofName word opening arguments).lastName = some name) :
    PathForm.EndsIn name (PathForm.ofName word opening arguments).tokens := by
  rw [PathForm.ofName] at named ⊢
  dsimp only at named ⊢
  split at named
  · cases named
    split
    · exact .single
    · exact .closed (.word name :: (opening ++ orderedArguments arguments))
  · cases named

theorem endsIn_of_readSegments? (read : readSegments? steps tokens = some (path, rest))
    (named : path.lastName = some name) : PathForm.EndsIn name path.tokens := by
  induction steps generalizing tokens rest path with
  | zero => cases read
  | succ steps inductionHypothesis =>
      obtain ⟨word, opening, arguments, further, read⟩ := exists_name_of_readSegments? read
      rw [PathForm.readOn?] at read
      split at read
      · obtain ⟨⟨others, last⟩, behind, same⟩ := Option.bind_eq_some_iff.1 read
        cases same
        exact (inductionHypothesis behind named).behind_colons _
      · cases read
        exact PathForm.endsIn_ofName named

theorem endsIn_of_readPath? (read : readPath? steps tokens = some (path, rest))
    (named : path.lastName = some name) : PathForm.EndsIn name path.tokens := by
  cases steps with
  | zero => cases read
  | succ steps =>
      unfold readPath? at read
      split at read
      · simp only [Option.bind_eq_bind, Option.bind_eq_some_iff] at read
        obtain ⟨⟨others, last⟩, behind, same⟩ := read
        cases same
        exact (endsIn_of_readSegments? behind named).behind_colons []
      · exact endsIn_of_readSegments? read named

theorem endsIn_of_readCalls? {start : PathForm}
    (starts : ∀ name, start.lastName = some name → PathForm.EndsIn name start.tokens)
    (read : readCalls? steps start tokens = some (path, rest)) (named : path.lastName = some name) :
    PathForm.EndsIn name path.tokens := by
  induction steps generalizing start tokens with
  | zero => cases read
  | succ steps inductionHypothesis =>
      unfold readCalls? at read
      split at read
      · simp only [Option.bind_eq_bind, Option.bind_eq_some_iff] at read
        obtain ⟨⟨function, further⟩, -, read⟩ := read
        rcases ite_eq_iff.1 read with ⟨-, read⟩ | ⟨-, read⟩
        · obtain ⟨⟨others, last⟩, behind, read⟩ := Option.bind_eq_some_iff.1 read
          refine inductionHypothesis (fun name named => ?_) read
          exact (endsIn_of_readSegments? behind named).behind_colons _
        · cases read
          cases named
      · cases read
        exact starts name named

/-! ### Types -/

variable {type : TypeForm} {allowsPlus : Bool}

theorem endsIn_of_readNamed? (read : readNamed? allowsPlus steps tokens = some (type, rest))
    (named : type.lastName = some name) : PathForm.EndsIn name type.tokens := by
  cases steps with
  | zero => cases read
  | succ steps =>
      unfold readNamed? at read
      split at read
      · simp only [Option.bind_eq_bind, Option.bind_eq_some_iff] at read
        obtain ⟨_, -, same⟩ := read
        cases same
        cases named
      · simp only [Option.bind_eq_bind, Option.bind_eq_some_iff] at read
        obtain ⟨⟨start, after⟩, ofPath, ⟨path, further⟩, ofCalls, read⟩ := read
        have ends (name : String) (named : path.lastName = some name) :
            PathForm.EndsIn name path.tokens :=
          endsIn_of_readCalls? (fun _ => endsIn_of_readPath? ofPath) ofCalls named
        dsimp only at read
        split at read
        · split at read
          · cases read
            cases named
          · cases read
        · split at read
          · split at read
            · simp only [Option.bind_eq_some_iff] at read
              obtain ⟨_, -, same⟩ := read
              cases same
              cases named
            · cases read
              cases named
          · cases read
            exact ends name named

/-- A lifetime after the mark of a reference holds no colon. -/
theorem arePlain_of_takeLifetime? {lifetime : List Token} (plain : ArePlain tokens)
    (taken : takeLifetime? tokens = some (lifetime, rest)) :
    (∃ word, lifetime = Token.lifetime word ∧ ':' ∉ word.toList) ∧ ArePlain rest := by
  unfold takeLifetime? at taken
  split at taken
  · cases taken
    exact ⟨⟨_, rfl, plain.2.1⟩, plain.2.2⟩
  · cases taken

theorem arePlain_of_takeWord? {word : String} (plain : ArePlain tokens)
    (taken : takeWord? word tokens = some rest) : ArePlain rest := by
  unfold takeWord? at taken
  split at taken
  · split at taken
    · cases taken
      exact plain.2
    · cases taken
  · cases taken

/-- A type is read in parentheses, behind a reference mark or as a path. -/
inductive Reads (allowsPlus : Bool) (steps : Nat) (tokens : List Token) (type : TypeForm) : Prop
  | group {inner others rest : List Token} {first : TypeForm} (shape : tokens = .group .round inner :: others)
      (read : readType? true steps inner = some (first, rest))
      (whole : type = ⟨first.lastName, [.group .round first.tokens]⟩)
  | reference {isJoint : Bool} {after lifetime middle mutability further rest : List Token}
      {target : TypeForm} (shape : tokens = .mark '&' isJoint :: after)
      (taken : (takeLifetime? after).getD ([], after) = (lifetime, middle))
      (mutable : (mutability = [.word "mut"] ∧ takeWord? "mut" middle = some further) ∨
        (mutability = [] ∧ further = middle))
      (read : readType? false steps further = some (target, rest))
      (whole : type = ⟨target.lastName, .single '&' :: lifetime ++ mutability ++ target.tokens⟩)
  | path {further rest : List Token} (read : readNamed? allowsPlus steps further = some (type, rest))

theorem reads_of_readType? (read : readType? allowsPlus (steps + 1) tokens = some (type, rest))
    (named : type.lastName = some name) : Reads allowsPlus steps tokens type := by
  have nameless (front : List Token) {bounds : Option (List Token × List Token)}
      (read : (bounds.bind fun form =>
        if areLifetimes form.1 then none else some (⟨none, front ++ form.1⟩, form.2)) =
          some (type, rest)) : False := by
    obtain ⟨_, -, read⟩ := Option.bind_eq_some_iff.1 read
    rcases ite_eq_iff.1 read with ⟨-, read⟩ | ⟨-, read⟩
    · cases read
    · cases read
      cases named
  unfold readType? at read
  simp only [Option.bind_eq_bind] at read
  split at read
  case h_1 =>
    cases read
    cases named
  case h_2 inner others =>
    obtain ⟨⟨first, after⟩, inside, read⟩ := Option.bind_eq_some_iff.1 read
    rcases ite_eq_iff.1 read with ⟨-, read⟩ | ⟨-, read⟩
    · rcases ite_eq_iff.1 read with ⟨-, read⟩ | ⟨-, read⟩
      · simp only [Option.bind_eq_some_iff] at read
        obtain ⟨_, -, _, -, same⟩ := read
        cases same
        cases named
      · cases read
        exact .group rfl inside rfl
    · simp only [Option.bind_eq_some_iff] at read
      obtain ⟨_, -, _, -, same⟩ := read
      cases same
      cases named
  case h_3 =>
    obtain ⟨_, -, read⟩ := Option.bind_eq_some_iff.1 read
    rcases ite_eq_iff.1 read with ⟨-, read⟩ | ⟨-, read⟩
    · cases read
      cases named
    · obtain ⟨_, -, read⟩ := Option.bind_eq_some_iff.1 read
      rcases ite_eq_iff.1 read with ⟨-, read⟩ | ⟨-, read⟩
      · cases read
      · cases read
        cases named
  case h_4 =>
    rcases ite_eq_iff.1 read with ⟨-, read⟩ | ⟨-, read⟩
    · obtain ⟨_, -, same⟩ := Option.bind_eq_some_iff.1 read
      cases same
      cases named
    · cases read
  case h_5 after =>
    generalize taken : (takeLifetime? after).getD ([], after) = start at read
    obtain ⟨lifetime, middle⟩ := start
    dsimp only at read
    cases mutable : takeWord? "mut" middle with
    | none =>
        rw [mutable] at read
        obtain ⟨⟨target, further⟩, inside, same⟩ := Option.bind_eq_some_iff.1 read
        cases same
        exact .reference rfl taken (.inr ⟨rfl, rfl⟩) inside rfl
    | some last =>
        rw [mutable] at read
        obtain ⟨⟨target, further⟩, inside, same⟩ := Option.bind_eq_some_iff.1 read
        cases same
        exact .reference rfl taken (.inl ⟨rfl, mutable⟩) inside rfl
  case h_6 =>
    rcases ite_eq_iff.1 read with ⟨-, read⟩ | ⟨-, read⟩
    · cases read
    · cases read
      cases named
  case h_7 =>
    cases read
    cases named
  case h_8 => exact (nameless [.word "impl"] read).elim
  case h_9 => exact (nameless [.word "dyn"] read).elim
  case h_10 =>
    rcases ite_eq_iff.1 read with ⟨-, read⟩ | ⟨-, read⟩
    · exact (nameless [] read).elim
    · obtain ⟨⟨binder, after⟩, -, read⟩ := Option.bind_eq_some_iff.1 read
      generalize takeFunctionWords after = front at read
      obtain ⟨words, further⟩ := front
      dsimp only at read
      split at read
      · obtain ⟨_, -, same⟩ := Option.bind_eq_some_iff.1 read
        cases same
        cases named
      · rcases ite_eq_iff.1 read with ⟨-, read⟩ | ⟨-, read⟩
        · cases read
        · rcases ite_eq_iff.1 read with ⟨-, read⟩ | ⟨-, read⟩
          · obtain ⟨_, -, same⟩ := Option.bind_eq_some_iff.1 read
            cases same
            cases named
          · exact .path read

/-- A type with a last name has one of the forms with this name. -/
theorem endsIn_of_readType? (plain : ArePlain tokens)
    (read : readType? allowsPlus steps tokens = some (type, rest))
    (named : type.lastName = some name) : TypeForm.EndsIn name type.tokens := by
  induction steps generalizing allowsPlus tokens rest type with
  | zero => cases read
  | succ steps inductionHypothesis =>
      cases reads_of_readType? read named with
      | group shape inside whole =>
          rw [whole]
          exact .group _
      | path ofPath => exact .path (endsIn_of_readNamed? ofPath named)
      | @reference _ after lifetime middle _ further _ target shape taken mutable inside whole =>
          subst shape whole
          have plainAfter : ArePlain after := plain.2
          obtain ⟨lifetimeForm, plainMiddle⟩ : (lifetime = [] ∨ ∃ word,
              lifetime = Token.lifetime word ∧ ':' ∉ word.toList) ∧ ArePlain middle := by
            cases found : takeLifetime? after with
            | none =>
                rw [found] at taken
                cases taken
                exact ⟨.inl rfl, plainAfter⟩
            | some both =>
                rw [found] at taken
                cases taken
                obtain ⟨form, others⟩ := arePlain_of_takeLifetime? plainAfter found
                exact ⟨.inr form, others⟩
          rcases mutable with ⟨rfl, found⟩ | ⟨rfl, rfl⟩
          · have plainFurther := arePlain_of_takeWord? plainMiddle found
            exact .reference lifetimeForm (.inr rfl) (inductionHypothesis plainFurther inside named)
          · exact .reference lifetimeForm (.inl rfl) (inductionHypothesis plainMiddle inside named)

theorem endsIn_of_ofTokens? (plain : ArePlain tokens) (read : TypeForm.ofTokens? tokens = some type)
    (named : type.lastName = some name) : TypeForm.EndsIn name type.tokens := by
  rw [TypeForm.ofTokens?] at read
  split at read
  · next taken =>
      cases read
      exact endsIn_of_readType? plain taken named
  · cases read

end

/-! ### Segments -/

/-- The name is the whole type, or it stands behind two colons at the end. -/
def TypeForm.Shows (type : TypeForm) (name : String) : Prop :=
  type.tokens = [.word name] ∨ ∃ front, type.tokens = front ++ colons ++ [.word name]

/-- A text ends in a closing mark or is a reference without colons. -/
inductive Hides : List Char → Prop
  | closed (front : List Char) {c : Char} (closing : c = '>' ∨ c = ')') : Hides (front ++ [c])
  | reference {rest : List Char} (plain : ':' ∉ rest) : Hides ('&' :: rest)

/-- The names of the integer types are made of letters and digits. -/
theorem isAsciiAlphanumeric_of_integerTypes : ∀ name ∈ integerTypes, name.toList ≠ [] ∧
    name.toList.all Text.isAsciiAlphanumeric = true := by
  decide

section

variable {name : String}

theorem not_mem_of_integerTypes (known : name ∈ integerTypes) {c : Char}
    (other : Text.isAsciiAlphanumeric c = false) : c ∉ name.toList := by
  intro member
  have part := List.all_eq_true.1 (isAsciiAlphanumeric_of_integerTypes name known).2 c member
  rw [part] at other
  cases other

theorem shown_word (known : name ∈ integerTypes) : shown (.word name) = name.toList := by
  rw [shown, Token.text, List.filter_eq_self]
  intro c member
  rw [bne_iff_ne]
  rintro rfl
  exact not_mem_of_integerTypes known rfl member

theorem suffix_of_isLastSegment {path segment : List Char} (last : IsLastSegment path segment) :
    segment <:+ path := by
  rcases last with ⟨rfl, -⟩ | ⟨before, rfl, -⟩
  · exact List.suffix_rfl
  · exact ⟨before ++ [':', ':'], by simp⟩

theorem Hides.not_isLastSegment {text : List Char} (hides : Hides text)
    (known : name ∈ integerTypes) : ¬IsLastSegment text name.toList := by
  intro last
  cases hides with
  | @closed front c closing =>
      obtain ⟨before, whole⟩ := suffix_of_isLastSegment last
      have final : name.toList.getLast? = some c := by
        rw [← List.getLast?_append_of_ne_nil before (isAsciiAlphanumeric_of_integerTypes name known).1,
          whole, List.getLast?_concat]
      have other : Text.isAsciiAlphanumeric c = false := by
        rcases closing with rfl | rfl <;> decide
      exact not_mem_of_integerTypes known other (List.mem_of_getLast? final)
  | @reference rest plain =>
      rcases last with ⟨whole, -⟩ | ⟨before, whole, -⟩
      · refine not_mem_of_integerTypes known (c := '&') rfl ?_
        rw [whole]
        exact List.mem_cons_self
      · have member : ':' ∈ '&' :: rest := by
          rw [whole]
          simp
        rcases List.mem_cons.1 member with marked | member
        · cases marked
        · exact plain member

/-- Each type with the last name of an integer shows or hides it. -/
theorem TypeForm.EndsIn.shows_or_hides {tokens : List Token} (ends : TypeForm.EndsIn name tokens)
    (known : name ∈ integerTypes) :
    (tokens = [.word name] ∨ ∃ front, tokens = front ++ colons ++ [.word name]) ∨
      Hides (tokens.flatMap shown) := by
  induction ends with
  | path ends =>
      cases ends with
      | single => exact .inl (.inl rfl)
      | behind front => exact .inl (.inr ⟨front, rfl⟩)
      | closed front =>
          refine .inr ?_
          rw [List.flatMap_append]
          exact .closed _ (.inl rfl)
  | group inner =>
      have text : [Token.group .round inner].flatMap shown =
          ('(' :: (Token.textOf inner).toList.filter (· != ' ')) ++ [')'] := by
        simp [shown, Token.text]
      rw [text]
      exact .inr (.closed _ (.inr rfl))
  | @reference lifetime mutability target named mutable ends inductionHypothesis =>
      have plain : ':' ∉ (lifetime ++ mutability).flatMap shown := by
        have mark : ':' ∉ "mut".toList := by decide
        have quote : ':' ∉ (Token.mark '\'' true).shown := by decide
        have word {text : String} (plain : ':' ∉ text.toList) : ':' ∉ (Token.word text).shown :=
          fun member => plain (List.mem_filter.1 member).1
        rw [List.flatMap_append, List.mem_append, not_or]
        constructor
        · rcases named with rfl | ⟨text, rfl, plain⟩
          · exact List.not_mem_nil
          · rw [Token.lifetime, List.flatMap_cons, List.flatMap_singleton, List.mem_append, not_or]
            exact ⟨quote, word plain⟩
        · rcases mutable with rfl | rfl
          · exact List.not_mem_nil
          · rw [List.flatMap_singleton]
            exact word mark
      have text : (Token.single '&' :: lifetime ++ mutability ++ target).flatMap shown =
          '&' :: (lifetime ++ mutability).flatMap shown ++ target.flatMap shown := by
        simp [shown, Token.text, Token.single]
      rcases inductionHypothesis with (rfl | ⟨front, rfl⟩) | hides
      · refine .inr ?_
        rw [text, List.cons_append]
        refine .reference ?_
        rw [List.flatMap_singleton, shown_word known, List.mem_append, not_or]
        exact ⟨plain, not_mem_of_integerTypes known rfl⟩
      · exact .inl (.inr ⟨.single '&' :: lifetime ++ mutability ++ front, by simp⟩)
      · refine .inr ?_
        rw [text]
        generalize target.flatMap shown = last at hides
        cases hides with
        | closed front closing =>
            rw [← List.append_assoc]
            exact .closed _ closing
        | reference rest =>
            rw [List.cons_append]
            refine .reference ?_
            rw [List.mem_append, List.mem_cons, not_or, not_or]
            exact ⟨plain, by decide, rest⟩

theorem TypeForm.name_toList (type : TypeForm) :
    type.name.toList = type.tokens.flatMap shown :=
  Token.compactTextOf_toList type.tokens

/-- A name that is shown is the last segment. -/
theorem TypeForm.Shows.isLastSegment {type : TypeForm} (shows : type.Shows name)
    (known : name ∈ integerTypes) : IsLastSegment type.name.toList name.toList := by
  have colon : ':' ∉ name.toList := not_mem_of_integerTypes known rfl
  have plain : ¬HoldsColons name.toList := fun holds => colon (holds.subset List.mem_cons_self)
  rw [type.name_toList]
  rcases shows with single | ⟨front, behind⟩
  · rw [single, List.flatMap_singleton, shown_word known]
    exact .inl ⟨rfl, plain⟩
  · have marks : colons.flatMap shown = [':', ':'] := by decide
    refine .inr ⟨front.flatMap shown, ?_, ?_⟩
    · rw [behind, List.flatMap_append, List.flatMap_append, marks, List.flatMap_singleton,
        shown_word known, List.append_assoc]
      rfl
    · rw [holdsColons_cons_iff]
      rintro (⟨-, segment, whole⟩ | holds)
      · exact colon (by rw [whole]; exact List.mem_cons_self)
      · exact plain holds

theorem isLastSegment_unique {path segment other : List Char} (last : IsLastSegment path segment)
    (same : IsLastSegment path other) : segment = other := by
  rw [← lastSegment_of_isLastSegment last, lastSegment_of_isLastSegment same]

/-- The range of a type is found if and only if the type shows it. -/
theorem TypeForm.isLastSegment_name_iff {type : TypeForm} (ends : TypeForm.EndsIn name type.tokens)
    (known : name ∈ integerTypes) {other : String} (otherKnown : other ∈ integerTypes) :
    IsLastSegment type.name.toList other.toList ↔ other = name ∧ type.Shows name := by
  constructor
  · intro last
    rcases ends.shows_or_hides known with shows | hides
    · have same := isLastSegment_unique last (TypeForm.Shows.isLastSegment shows known)
      exact ⟨String.toList_inj.1 same, shows⟩
    · rw [type.name_toList] at last
      exact absurd last (hides.not_isLastSegment otherKnown)
  · rintro ⟨rfl, shows⟩
    exact shows.isLastSegment known

end

/-! ### Bounds -/

/-- The type is one of the twelve integer types, perhaps behind references or in parentheses. -/
structure TypeForm.IsInteger (type : TypeForm) (name : String) (range : Text.IntegerRange) :
    Prop where
  named : type.lastName = some name
  known : (name, range) ∈ FieldRules.integerTypes

theorem mem_integerTypes_iff {name : String} :
    name ∈ integerTypes ↔ ∃ range, (name, range) ∈ FieldRules.integerTypes := by
  simp only [integerTypes, FieldRules.integerTypes, List.mem_cons, List.not_mem_nil, Prod.mk.injEq,
    exists_or, exists_and_left, exists_eq, and_true, or_false]

/-- A type has the integer kind if and only if its last name has it. -/
theorem TypeForm.kind_eq_integer_iff {type : TypeForm} :
    type.kind = .integer ↔ ∃ name range, type.IsInteger name range := by
  have apart : ∀ name ∈ integerTypes, name ∉ textTypes := by decide
  constructor
  · intro integer
    rw [TypeForm.kind] at integer
    split at integer
    · cases integer
    · next name named =>
        split at integer
        · cases integer
        · split at integer
          · next listed =>
              obtain ⟨range, known⟩ := mem_integerTypes_iff.1 (List.contains_iff_mem.1 listed)
              exact ⟨name, range, named, known⟩
          · split at integer <;> cases integer
  · rintro ⟨name, range, named, known⟩
    have listed : name ∈ integerTypes := mem_integerTypes_iff.2 ⟨range, known⟩
    simp [TypeForm.kind, named, listed, apart name listed]

/-- A bound is in the range of the type if the type shows its integer. -/
theorem TypeForm.IsInteger.admits_iff {type : TypeForm} {name : String}
    {range : Text.IntegerRange} (integer : type.IsInteger name range)
    (ends : TypeForm.EndsIn name type.tokens) {field : Field} (typed : field.typeName = type.name)
    (bound : Int) :
    field.Admits bound ↔ (type.Shows name → range.low ≤ bound ∧ bound ≤ range.high) := by
  have distinct : (FieldRules.integerTypes.map Prod.fst).Nodup := by decide
  have known : name ∈ integerTypes := mem_integerTypes_iff.2 ⟨range, integer.known⟩
  have segment {other : String × Text.IntegerRange} (listed : other ∈ FieldRules.integerTypes) :
      IsLastSegment type.name.toList other.1.toList ↔ other.1 = name ∧ type.Shows name :=
    TypeForm.isLastSegment_name_iff ends known (mem_integerTypes_iff.2 ⟨other.2, listed⟩)
  rw [Field.Admits, typed]
  constructor
  · intro admits shows
    exact admits _ integer.known ((segment integer.known).2 ⟨rfl, shows⟩)
  · intro inside other listed last
    obtain ⟨same, shows⟩ := (segment listed).1 last
    have whole : other = (name, range) :=
      List.inj_on_of_nodup_map distinct listed integer.known same
    rw [whole]
    exact inside shows

end FieldRules.Source
