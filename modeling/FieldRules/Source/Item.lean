import FieldRules.Source.Attribute

/-!
This file reads the structs, enums and unions of Rust source with their generic parameters.
-/

namespace FieldRules.Source

/-- A parameter of a type; a default value is not kept. -/
inductive Parameter where
  | lifetime (attributes : List Token) (name bounds : List Token)
  | named (attributes : List Token) (name : String) (bounds : List Token)
  | constant (attributes : List Token) (name : String) (form : List Token)

structure Generics where
  /-- The parameters, each with a flag that tells whether a comma follows it. -/
  parameters : List (Parameter × Bool)
  /-- The conditions after `where` with their commas. -/
  conditions : List Token

structure FieldItem where
  attributes : List Attribute
  name : String
  type : TypeForm

/-- What an item holds; only the fields with names matter. -/
inductive ItemBody where
  | namedFields (fields : List FieldItem)
  | otherFields
  | noStruct

structure Item where
  name : String
  generics : Generics
  body : ItemBody

/-! ### Generic parameters -/

def takeName? : List Token → Option (String × List Token)
  | .word word :: tokens => if isName word then some (word, tokens) else none
  | _ => none

/-- Bounds after a colon; there may be none. -/
def takeBounds? (tokens : List Token) : Option (List Token × List Token) :=
  if startsBound tokens then readBounds? true (typeSteps tokens) tokens else some ([], tokens)

/-- A default value goes up to the next comma or to the end of the parameters. -/
def takeDefaultValue? (tokens : List Token) : Option (List Token) :=
  match takeConstant? tokens with
  | some (_, rest) => some rest
  | none => (takeType? tokens).map Prod.snd

def takeParameter? (tokens : List Token) : Option (Parameter × List Token) := do
  let (items, rest) ← attributesAt? tokens
  let attributes := items.flatMap Attribute.tokens
  match rest with
  | .mark '\'' _ :: .word name :: rest => do
      let bounds := takeLifetimes rest.tail
      if startsWithMark ':' rest then
        some (.lifetime attributes (Token.lifetime name) bounds.1, bounds.2)
      else some (.lifetime attributes (Token.lifetime name) [], rest)
  | .word "const" :: rest => do
      let (name, rest) ← takeName? rest
      let (type, rest) ← takeType? (← takeMark? ':' rest)
      match takeMark? '=' rest with
      | none => some (.constant attributes name type.tokens, rest)
      | some rest => some (.constant attributes name type.tokens, ← takeDefaultValue? rest)
  | _ => do
      let (name, rest) ←
        match takeWord? "_" rest with
        | some rest => some ("_", rest)
        | none => takeName? rest
      let (bounds, rest) ←
        match takeMark? ':' rest with
        | some rest => takeBounds? rest
        | none => some ([], rest)
      match takeMark? '=' rest with
      | none => some (.named attributes name bounds, rest)
      | some rest => some (.named attributes name bounds, (← takeType? rest).2)

/-- The parameters up to the closing angle bracket. -/
def takeParameters? : Nat → List Token → Option (List (Parameter × Bool) × List Token)
  | 0, _ => none
  | steps + 1, tokens =>
      match takeMark? '>' tokens with
      | some rest => some ([], rest)
      | none => do
          let (parameter, rest) ← takeParameter? tokens
          match takeMark? ',' rest with
          | some rest => do
              let (others, rest) ← takeParameters? steps rest
              some ((parameter, true) :: others, rest)
          | none => some ([(parameter, false)], ← takeMark? '>' rest)

def parametersAt? (tokens : List Token) : Option (List (Parameter × Bool) × List Token) :=
  match takeMark? '<' tokens with
  | none => some ([], tokens)
  | some rest => takeParameters? (rest.length + 1) rest

/-- One condition on a lifetime or on a type. -/
def takeCondition? (tokens : List Token) : Option (List Token × List Token) := do
  match takeLifetime? tokens with
  | some (name, rest) =>
      let (bounds, rest) := takeLifetimes (← takeMark? ':' rest)
      some (name ++ Token.single ':' :: bounds, rest)
  | none =>
      let (binder, rest) ← takeBinder? tokens
      let (type, rest) ← takeType? rest
      let (bounds, rest) ← takeBounds? (← takeMark? ':' rest)
      some (binder ++ type.tokens ++ Token.single ':' :: bounds, rest)

/-- The conditions end where the body of the item starts. -/
def endsConditions : List Token → Bool
  | [] => true
  | .group .curly _ :: _ => true
  | .mark c _ :: rest => c == ',' || c == ';' || c == '=' || (c == ':' && !startsWithMark ':' rest)
  | _ => false

def takeConditions? : Nat → List Token → Option (List Token × List Token)
  | 0, _ => none
  | steps + 1, tokens =>
      if endsConditions tokens then some ([], tokens)
      else do
        let (condition, rest) ← takeCondition? tokens
        match takeMark? ',' rest with
        | some rest => do
            let (others, rest) ← takeConditions? steps rest
            some (condition ++ Token.single ',' :: others, rest)
        | none => some (condition, rest)

def conditionsAt? (tokens : List Token) : Option (List Token × List Token) :=
  match takeWord? "where" tokens with
  | none => some ([], tokens)
  | some rest => takeConditions? (rest.length + 1) rest

/-! ### Fields -/

/-- The text after a visibility; a parenthesis that holds anything else belongs to a type. -/
def dropVisibility : List Token → List Token
  | .word "pub" :: .group .round inner :: tokens =>
      match inner with
      | [.word word] =>
          if ["crate", "self", "super"].contains word then tokens
          else .group .round inner :: tokens
      | .word "in" :: _ => tokens
      | _ => .group .round inner :: tokens
  | .word "pub" :: tokens => tokens
  | tokens => tokens

def takeNamedField? (tokens : List Token) : Option (FieldItem × List Token) := do
  let (attributes, rest) ← attributesAt? tokens
  let (name, rest) ←
    match dropVisibility rest with
    | .word "_" :: rest => some ("_", rest)
    | rest => takeName? rest
  let (type, rest) ← takeType? (← takeMark? ':' rest)
  some (⟨attributes, name, type⟩, rest)

def readNamedFields? : Nat → List Token → Option (List FieldItem)
  | 0, _ => none
  | steps + 1, tokens =>
      if tokens.isEmpty then some []
      else do
        let (field, rest) ← takeNamedField? tokens
        if rest.isEmpty then some [field]
        else some (field :: (← readNamedFields? steps (← takeMark? ',' rest)))

/-- The fields without names are read and not kept. -/
def areFields : Nat → List Token → Bool
  | 0, _ => false
  | steps + 1, tokens =>
      tokens.isEmpty ||
        ((attributesAt? tokens).bind fun (_, rest) => takeType? (dropVisibility rest)).any
          fun (_, rest) => rest.isEmpty || (takeMark? ',' rest).any (areFields steps)

/-- The variants of an enum are read and not kept. -/
def areVariants : Nat → List Token → Bool
  | 0, _ => false
  | steps + 1, tokens =>
      tokens.isEmpty ||
        ((attributesAt? tokens).bind fun (_, rest) => takeName? (dropVisibility rest)).any
          fun (_, rest) =>
            let (isSound, rest) :=
              match rest with
              | .group .curly inner :: rest =>
                  ((readNamedFields? (inner.length + 1) inner).isSome, rest)
              | .group .round inner :: rest => (areFields (inner.length + 1) inner, rest)
              | rest => (true, rest)
            let (hasNumber, rest) :=
              match takeMark? '=' rest with
              | some value =>
                  (!value.isEmpty && !startsWithMark ',' value,
                    value.dropWhile fun token => !Token.isMark ',' token)
              | none => (true, rest)
            isSound && hasNumber && (rest.isEmpty || (takeMark? ',' rest).any (areVariants steps))

/-! ### Items -/

def readStruct? (tokens : List Token) : Option (List Token × ItemBody) := do
  let (conditions, rest) ← conditionsAt? tokens
  match rest with
  | [.group .curly inner] =>
      (readNamedFields? (inner.length + 1) inner).map fun fields => (conditions, .namedFields fields)
  | [.mark ';' _] => some (conditions, .otherFields)
  | .group .round inner :: rest =>
      if !conditions.isEmpty || !areFields (inner.length + 1) inner then none
      else do
        let (conditions, rest) ← conditionsAt? rest
        match rest with
        | [.mark ';' _] => some (conditions, .otherFields)
        | _ => none
  | _ => none

def readEnum? (tokens : List Token) : Option (List Token × ItemBody) := do
  let (conditions, rest) ← conditionsAt? tokens
  match rest with
  | [.group .curly inner] =>
      if areVariants (inner.length + 1) inner then some (conditions, .noStruct) else none
  | _ => none

def readUnion? (tokens : List Token) : Option (List Token × ItemBody) := do
  let (conditions, rest) ← conditionsAt? tokens
  match rest with
  | [.group .curly inner] =>
      (readNamedFields? (inner.length + 1) inner).map fun _ => (conditions, .noStruct)
  | _ => none

/-- One item and nothing else. -/
def Item.ofTokens? (tokens : List Token) : Option Item := do
  let (_, rest) ← attributesAt? tokens
  let (read, rest) ←
    match dropVisibility rest with
    | .word "struct" :: rest => some (readStruct?, rest)
    | .word "enum" :: rest => some (readEnum?, rest)
    | .word "union" :: rest => some (readUnion?, rest)
    | _ => none
  let (name, rest) ← takeName? rest
  let (parameters, rest) ← parametersAt? rest
  let (conditions, body) ← read rest
  some ⟨name, ⟨parameters, conditions⟩, body⟩

/-! ### Text of generic parameters -/

def bounded (name bounds : List Token) : List Token :=
  if bounds.isEmpty then name else name ++ Token.single ':' :: bounds

/-- A parameter where it is declared. -/
def Parameter.declaration : Parameter → List Token
  | .lifetime attributes name bounds => attributes ++ bounded name bounds
  | .named attributes name bounds => attributes ++ bounded [.word name] bounds
  | .constant attributes name form =>
      attributes ++ .word "const" :: .word name :: .single ':' :: form

/-- A parameter where it is used. -/
def Parameter.use : Parameter → List Token
  | .lifetime _ name _ => name
  | .named _ name _ => [.word name]
  | .constant _ name _ => [.word name]

def Parameter.isLifetime : Parameter → Bool
  | .lifetime .. => true
  | _ => false

/-- Parameters stand in angle brackets, with the lifetimes first. -/
def parameterList (write : Parameter → List Token) (parameters : List (Parameter × Bool)) :
    List Token :=
  if parameters.isEmpty then []
  else
    .single '<' :: orderedArguments (parameters.map fun (parameter, hasComma) =>
      ⟨parameter.isLifetime, write parameter, hasComma⟩) ++ [.single '>']

def whereClause (conditions : List Token) : List Token :=
  if conditions.isEmpty then [] else .word "where" :: conditions

/-- More conditions follow the ones that are there, after a comma. -/
def addConditions (conditions : List Token) : List (List Token) → List Token
  | [] => conditions
  | condition :: others =>
      let isOpen := conditions.isEmpty || (conditions.getLast?.map (Token.isMark ',')).getD true
      addConditions ((if isOpen then conditions else conditions ++ [.single ',']) ++ condition) others

end FieldRules.Source
