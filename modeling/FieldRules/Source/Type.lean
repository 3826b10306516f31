import FieldRules.Record.Basic
import FieldRules.Source.Token

/-!
This file reads the types of Rust source. A type that has been read is a list of tokens, in which
marks are joint only inside of one operator.
-/

namespace FieldRules.Source

/-- The words that are no names. -/
def reserved : List String :=
  ["_", "abstract", "as", "async", "await", "become", "box", "break", "const", "continue", "crate",
    "do", "dyn", "else", "enum", "extern", "false", "final", "fn", "for", "if", "impl", "in", "let",
    "loop", "macro", "match", "mod", "move", "mut", "override", "priv", "pub", "ref", "return",
    "Self", "self", "static", "struct", "super", "trait", "true", "try", "type", "typeof", "unsafe",
    "unsized", "use", "virtual", "where", "while", "yield"]

def isName (word : String) : Bool :=
  !reserved.contains word

/-- The words that may stand in a path, also where they are no names. -/
def isSegment (word : String) : Bool :=
  isName word || ["super", "self", "Self", "crate"].contains word

/-- A type with its last name, if its form has one. -/
structure TypeForm where
  lastName : Option String
  tokens : List Token

/-- A path with its last name, if that has no arguments. -/
structure PathForm where
  lastName : Option String
  /-- The path is a single name, perhaps with arguments. -/
  isSingle : Bool
  /-- No name has arguments. -/
  isBare : Bool
  tokens : List Token

/-! ### Pieces -/

def takeMark? (c : Char) : List Token → Option (List Token)
  | .mark d _ :: tokens => if c = d then some tokens else none
  | _ => none

def takePair? (first second : Char) : List Token → Option (List Token)
  | .mark c true :: .mark d _ :: tokens => if c = first ∧ d = second then some tokens else none
  | _ => none

def takeWord? (word : String) : List Token → Option (List Token)
  | .word other :: tokens => if word = other then some tokens else none
  | _ => none

def startsWithMark (c : Char) (tokens : List Token) : Bool :=
  (takeMark? c tokens).isSome

def startsWithPair (first second : Char) (tokens : List Token) : Bool :=
  (takePair? first second tokens).isSome

def startsWithColons (tokens : List Token) : Bool :=
  startsWithPair ':' ':' tokens

def takeLifetime? : List Token → Option (List Token × List Token)
  | .mark '\'' _ :: .word name :: tokens => some (Token.lifetime name, tokens)
  | _ => none

def startsWithLifetime (tokens : List Token) : Bool :=
  (takeLifetime? tokens).isSome

def startsWithWord (test : String → Bool) : List Token → Bool
  | .word word :: _ => test word
  | _ => false

def startsWithRound : List Token → Bool
  | .group .round _ :: _ => true
  | _ => false

def colons : List Token :=
  Token.operator [':', ':']

def arrow : List Token :=
  Token.operator ['-', '>']

/-- Two colons before a parenthesis have no meaning. -/
def dropColons (tokens : List Token) : List Token :=
  if startsWithColons tokens && startsWithRound (tokens.drop 2) then tokens.drop 2 else tokens

/-- A name or a low line with a colon after it, before a parameter. -/
def takeLabel (isFirst : Bool) (tokens : List Token) : List Token × List Token :=
  match tokens with
  | .word word :: .mark ':' isJoint :: rest =>
      if (isName word || word = "_" || (isFirst && word = "self")) &&
          !(isJoint && startsWithMark ':' rest) then
        ([.word word, .single ':'], rest)
      else ([], tokens)
  | _ => ([], tokens)

/-- Three points stand for any further parameters, and a comma may follow. -/
def takeVariadic? : List Token → Option (List Token)
  | .mark '.' true :: .mark '.' true :: .mark '.' _ :: rest =>
      match rest with
      | [] => some (Token.operator ['.', '.', '.'])
      | [.mark ',' _] => some (Token.operator ['.', '.', '.'] ++ [.single ','])
      | _ => none
  | _ => none

/-- A list of bounds that names no trait. -/
def areLifetimes : List Token → Bool
  | [] => true
  | .mark '\'' _ :: .word _ :: .mark '+' _ :: tokens => areLifetimes tokens
  | [.mark '\'' _, .word _] => true
  | _ => false

/-- A bound of a type starts with a path, a lifetime, a parenthesis or a modifier. -/
def startsBound (tokens : List Token) : Bool :=
  startsWithWord (fun word => isSegment word || word == "for") tokens || startsWithColons tokens ||
    startsWithMark '?' tokens || startsWithMark '~' tokens || startsWithLifetime tokens ||
    startsWithRound tokens

/-- A literal; a truth value is one, and a number may have a minus. -/
def takeLiteral? : List Token → Option (List Token × List Token)
  | .literal text :: tokens => some ([.literal text], tokens)
  | .word "true" :: tokens => some ([.word "true"], tokens)
  | .word "false" :: tokens => some ([.word "false"], tokens)
  | .mark '-' _ :: .literal text :: tokens => some ([.single '-', .literal text], tokens)
  | _ => none

def takeConstant? : List Token → Option (List Token × List Token)
  | .group .curly inner :: tokens => some ([Token.spaced (.group .curly inner)], tokens)
  | tokens => takeLiteral? tokens

/-- The lifetimes after a colon, with plus signs between them. -/
def takeLifetimes : List Token → List Token × List Token
  | .mark '\'' _ :: .word name :: .mark '+' _ :: tokens =>
      let (others, rest) := takeLifetimes tokens
      (Token.lifetime name ++ Token.single '+' :: others, rest)
  | .mark '\'' _ :: .word name :: tokens => (Token.lifetime name, tokens)
  | tokens => ([], tokens)

/-- A lifetime may have bounds of its own. -/
def takeLifetimeParameter? (tokens : List Token) : Option (List Token × List Token) := do
  let (name, rest) ← takeLifetime? tokens
  if startsWithMark ':' rest then
    let (bounds, rest) := takeLifetimes rest.tail
    some (if bounds.isEmpty then name else name ++ Token.single ':' :: bounds, rest)
  else some (name, rest)

/-- The lifetimes between angle brackets that a type binds. -/
def takeBoundLifetimes? : Nat → List Token → Option (List Token × List Token)
  | 0, _ => none
  | steps + 1, tokens =>
      match takeMark? '>' tokens with
      | some rest => some ([.single '>'], rest)
      | none => do
          let (parameter, rest) ← takeLifetimeParameter? tokens
          match takeMark? ',' rest with
          | some rest => do
              let (others, rest) ← takeBoundLifetimes? steps rest
              some (parameter ++ Token.single ',' :: others, rest)
          | none => do
              let rest ← takeMark? '>' rest
              some (parameter ++ [.single '>'], rest)

/-- The lifetimes that a type binds in front of it, if it binds any. -/
def takeBinder? (tokens : List Token) : Option (List Token × List Token) :=
  match takeWord? "for" tokens with
  | none => some ([], tokens)
  | some rest => do
      let rest ← takeMark? '<' rest
      let (lifetimes, rest) ← takeBoundLifetimes? (rest.length + 1) rest
      some (.word "for" :: .single '<' :: lifetimes, rest)

/-- The words before a function type. -/
def takeFunctionWords : List Token → List Token × List Token
  | .word "unsafe" :: tokens =>
      let (words, rest) := takeFunctionWords tokens
      (.word "unsafe" :: words, rest)
  | .word "extern" :: .literal text :: tokens => ([.word "extern", .literal text], tokens)
  | .word "extern" :: tokens => ([.word "extern"], tokens)
  | tokens => ([], tokens)

/-- One argument in angle brackets. -/
structure Argument where
  isLifetime : Bool
  tokens : List Token
  hasComma : Bool

def Argument.text (argument : Argument) : List Token :=
  argument.tokens ++ (if argument.hasComma then [Token.single ','] else [])

/-- Lifetimes stand before all other arguments, and a comma separates the two parts. -/
def orderedArguments (arguments : List Argument) : List Token :=
  let lifetimes := arguments.filter (·.isLifetime)
  let others := arguments.filter fun argument => !argument.isLifetime
  let isApart := (lifetimes.getLast?.map (·.hasComma)).getD true
  lifetimes.flatMap Argument.text ++
    (if isApart || others.isEmpty then [] else [Token.single ',']) ++
    others.flatMap Argument.text

/-! ### Types -/

mutual

def readType? (allowsPlus : Bool) : Nat → List Token → Option (TypeForm × List Token)
  | 0, _ => none
  | steps + 1, tokens =>
      match tokens with
      | .group .round [] :: rest => some (⟨none, [.group .round []]⟩, rest)
      | .group .round inner :: rest => do
          let (first, others) ← readType? true steps inner
          if others.isEmpty then
            if allowsPlus && startsWithMark '+' rest then do
              let (bounds, rest) ← readBounds? false steps (.group .round inner :: rest)
              let (others, rest) ← readBounds? true steps rest.tail
              some (⟨none, bounds ++ Token.single '+' :: others⟩, rest)
            else some (⟨first.lastName, [.group .round first.tokens]⟩, rest)
          else do
            let others ← readTypes? steps (← takeMark? ',' others)
            some (⟨none, [.group .round (first.tokens ++ Token.single ',' :: others)]⟩, rest)
      | .group .square inner :: rest => do
          let (item, others) ← readType? true steps inner
          if others.isEmpty then some (⟨none, [.group .square item.tokens]⟩, rest)
          else do
            let size ← takeMark? ';' others
            if size.isEmpty then none
            else
              some (⟨none, [.group .square (item.tokens ++ Token.single ';' ::
                Token.spacedAll 0 size)]⟩, rest)
      | .mark '*' _ :: .word word :: rest =>
          if word = "const" ∨ word = "mut" then do
            let (target, rest) ← readType? false steps rest
            some (⟨none, .single '*' :: .word word :: target.tokens⟩, rest)
          else none
      | .mark '&' _ :: rest => do
          let (lifetime, rest) := (takeLifetime? rest).getD ([], rest)
          let (mutability, rest) :=
            match takeWord? "mut" rest with
            | some rest => ([Token.word "mut"], rest)
            | none => ([], rest)
          let (target, rest) ← readType? false steps rest
          some (⟨target.lastName, .single '&' :: lifetime ++ mutability ++ target.tokens⟩, rest)
      | .mark '!' isJoint :: rest =>
          if isJoint && startsWithMark '=' rest then none else some (⟨none, [.single '!']⟩, rest)
      | .word "_" :: rest => some (⟨none, [.word "_"]⟩, rest)
      | .word "impl" :: rest => do
          let (bounds, rest) ← readBounds? allowsPlus steps rest
          if areLifetimes bounds then none else some (⟨none, .word "impl" :: bounds⟩, rest)
      | .word "dyn" :: rest => do
          let (bounds, rest) ← readBounds? allowsPlus steps rest
          if areLifetimes bounds then none else some (⟨none, .word "dyn" :: bounds⟩, rest)
      | _ =>
          if startsWithLifetime tokens || startsWithMark '?' tokens then do
            let (bounds, rest) ← readBounds? allowsPlus steps tokens
            if areLifetimes bounds then none else some (⟨none, bounds⟩, rest)
          else do
            let (binder, rest) ← takeBinder? tokens
            let (words, rest) := takeFunctionWords rest
            match takeWord? "fn" rest with
            | some rest => do
                let (function, rest) ← readFunction? true steps rest
                some (⟨none, binder ++ words ++ .word "fn" :: function⟩, rest)
            | none =>
                if !words.isEmpty then none
                else if !binder.isEmpty then do
                  let (bounds, rest) ← readBounds? allowsPlus steps rest
                  some (⟨none, binder ++ bounds⟩, rest)
                else readNamed? allowsPlus steps rest

/-- A path, the call of a macro or bounds that start with a path. -/
def readNamed? (allowsPlus : Bool) : Nat → List Token → Option (TypeForm × List Token)
  | 0, _ => none
  | steps + 1, tokens =>
      match takeMark? '<' tokens with
      | some rest => do
          let (path, rest) ← readQualified? steps rest
          some (⟨none, .single '<' :: path⟩, rest)
      | none => do
          let (path, rest) ← readPath? steps tokens
          let (path, rest) ← readCalls? steps path rest
          match rest with
          | .mark '!' _ :: .group bracket inner :: rest =>
              if path.isBare then
                some (⟨none, path.tokens ++ [.single '!', .group bracket inner]⟩, rest)
              else none
          | _ =>
              if allowsPlus && startsWithMark '+' rest then
                if startsBound rest.tail then do
                  let (bounds, rest) ← readBounds? true steps rest.tail
                  some (⟨none, path.tokens ++ Token.single '+' :: bounds⟩, rest)
                else some (⟨none, path.tokens ++ [Token.single '+']⟩, rest.tail)
              else some (⟨path.lastName, path.tokens⟩, rest)

/-- The types in parentheses after the last name of a path. -/
def readCalls? : Nat → PathForm → List Token → Option (PathForm × List Token)
  | 0, _, _ => none
  | steps + 1, path, tokens =>
      match path.lastName, dropColons tokens with
      | some _, .group .round inner :: rest => do
          let (function, rest) ← readFunction? false steps (.group .round inner :: rest)
          let goesOn :=
            match function.drop 3 with
            | [] => true
            | [.group .round result] => (readType? true steps result).any (·.2.isEmpty)
            | _ => false
          if goesOn && startsWithColons rest && !startsWithRound (rest.drop 2) then do
            let (others, rest) ← readSegments? steps (rest.drop 2)
            readCalls? steps
              ⟨others.lastName, false, false, path.tokens ++ function ++ colons ++ others.tokens⟩ rest
          else some (⟨none, false, false, path.tokens ++ function⟩, rest)
      | _, _ => some (path, tokens)

/-- A path from a type, after its opening angle bracket. -/
def readQualified? : Nat → List Token → Option (List Token × List Token)
  | 0, _ => none
  | steps + 1, tokens => do
      let (self, rest) ← readType? true steps tokens
      let (base, rest) ←
        match takeWord? "as" rest with
        | none => some (([] : List Token), rest)
        | some rest => do
            let (path, rest) ← readPath? steps rest
            some (.word "as" :: path.tokens, rest)
      let rest ← takePair? ':' ':' (← takeMark? '>' rest)
      let (path, rest) ← readPath? steps rest
      if startsWithColons path.tokens then none
      else some (self.tokens ++ base ++ Token.single '>' :: colons ++ path.tokens, rest)

def readPath? : Nat → List Token → Option (PathForm × List Token)
  | 0, _ => none
  | steps + 1, tokens =>
      match takePair? ':' ':' tokens with
      | some rest => do
          let (path, rest) ← readSegments? steps rest
          some ({ path with isSingle := false, tokens := colons ++ path.tokens }, rest)
      | none => readSegments? steps tokens

/-- The names of a path with their arguments. -/
def readSegments? : Nat → List Token → Option (PathForm × List Token)
  | 0, _ => none
  | steps + 1, tokens =>
      match tokens with
      | .word word :: rest =>
          if !isSegment word then none
          else do
            let takesArguments := isName word || word = "Self"
            let (opening, arguments, rest) ←
              if takesArguments && startsWithMark '<' rest && !startsWithPair '<' '=' rest then
                (readArguments? steps rest.tail).map fun (arguments, rest) =>
                  ([Token.single '<'], arguments, rest)
              else if takesArguments && startsWithColons rest && startsWithMark '<' (rest.drop 2) then
                (readArguments? steps (rest.drop 3)).map fun (arguments, rest) =>
                  (colons ++ [Token.single '<'], arguments, rest)
              else some ([], [], rest)
            let text :=
              if opening.isEmpty then []
              else opening ++ orderedArguments arguments ++ [Token.single '>']
            let here : PathForm :=
              ⟨if arguments.isEmpty then some word else none, true, opening.isEmpty,
                .word word :: text⟩
            if startsWithColons rest && !startsWithRound (rest.drop 2) then do
              let (others, rest) ← readSegments? steps (rest.drop 2)
              some (⟨others.lastName, false, here.isBare && others.isBare,
                here.tokens ++ colons ++ others.tokens⟩, rest)
            else some (here, rest)
      | _ => none

/-- The arguments after an opening angle bracket. -/
def readArguments? : Nat → List Token → Option (List Argument × List Token)
  | 0, _ => none
  | steps + 1, tokens =>
      match takeMark? '>' tokens with
      | some rest => some ([], rest)
      | none => do
          let isLifetime := startsWithLifetime tokens && !startsWithMark '+' (tokens.drop 2)
          let (argument, rest) ← readArgument? steps tokens
          match takeMark? ',' rest with
          | some rest => do
              let (others, rest) ← readArguments? steps rest
              some (⟨isLifetime, argument, true⟩ :: others, rest)
          | none => do
              let rest ← takeMark? '>' rest
              some ([⟨isLifetime, argument, false⟩], rest)

/-- A lifetime, a constant, a type or a name with one of them. -/
def readArgument? : Nat → List Token → Option (List Token × List Token)
  | 0, _ => none
  | steps + 1, tokens =>
      if startsWithLifetime tokens && !startsWithMark '+' (tokens.drop 2) then takeLifetime? tokens
      else
        match takeConstant? tokens with
        | some constant => some constant
        | none => do
            let (type, rest) ← readType? true steps tokens
            let isSingle :=
              match readPath? steps tokens with
              | some (path, after) => path.isSingle && after.length == rest.length
              | none => false
            if isSingle && startsWithMark '=' rest then
              match takeConstant? rest.tail with
              | some (constant, rest) => some (type.tokens ++ Token.single '=' :: constant, rest)
              | none => do
                  let (value, rest) ← readType? true steps rest.tail
                  some (type.tokens ++ Token.single '=' :: value.tokens, rest)
            else if isSingle && startsWithMark ':' rest then do
              let (bounds, rest) ←
                if startsBound rest.tail then readBounds? true steps rest.tail else some ([], rest.tail)
              some (type.tokens ++ Token.single ':' :: bounds, rest)
            else some (type.tokens, rest)

/-- At least one bound, with plus signs between them. -/
def readBounds? (allowsPlus : Bool) : Nat → List Token → Option (List Token × List Token)
  | 0, _ => none
  | steps + 1, tokens => do
      let (bound, rest) ← readBound? steps tokens
      if allowsPlus && startsWithMark '+' rest then
        if startsBound rest.tail then do
          let (others, rest) ← readBounds? allowsPlus steps rest.tail
          some (bound ++ Token.single '+' :: others, rest)
        else some (bound ++ [.single '+'], rest.tail)
      else some (bound, rest)

def readBound? : Nat → List Token → Option (List Token × List Token)
  | 0, _ => none
  | steps + 1, tokens =>
      match tokens with
      | .group .round inner :: rest => do
          let (bound, others) ← readBound? steps inner
          if others.isEmpty then some ([.group .round bound], rest) else none
      | _ =>
          match takeLifetime? tokens with
          | some lifetime => some lifetime
          | none => do
              let (modifier, rest) :=
                match tokens with
                | .mark '?' _ :: rest => ([Token.single '?'], rest)
                | .mark '~' _ :: .word "const" :: rest => ([.single '~', .word "const"], rest)
                | rest => ([], rest)
              let (binder, rest) ← takeBinder? rest
              let (path, rest) ← readPath? steps rest
              match dropColons rest with
              | .group .round inner :: rest => do
                  let (function, rest) ← readFunction? false steps (.group .round inner :: rest)
                  some (modifier ++ binder ++ path.tokens ++ function, rest)
              | rest => some (modifier ++ binder ++ path.tokens, rest)

/-- The parameters of a function in parentheses, which may have names, and its result. -/
def readFunction? (isNamed : Bool) : Nat → List Token → Option (List Token × List Token)
  | 0, _ => none
  | steps + 1, tokens =>
      match tokens with
      | .group .round inner :: rest => do
          let parameters ←
            if isNamed then readParameters? true steps inner else readTypes? steps inner
          match takePair? '-' '>' rest with
          | none => some ([.group .round parameters], rest)
          | some rest => do
              let (result, rest) ← readType? false steps rest
              some (.group .round parameters :: arrow ++ result.tokens, rest)
      | _ => none

/-- Types with commas between them. -/
def readTypes? : Nat → List Token → Option (List Token)
  | 0, _ => none
  | steps + 1, tokens =>
      if tokens.isEmpty then some []
      else do
        let (type, rest) ← readType? true steps tokens
        match takeMark? ',' rest with
        | some rest => do
            let others ← readTypes? steps rest
            some (type.tokens ++ Token.single ',' :: others)
        | none => if rest.isEmpty then some type.tokens else none

/-- Types that may have names in front of them, and perhaps three points at the end. -/
def readParameters? (isFirst : Bool) : Nat → List Token → Option (List Token)
  | 0, _ => none
  | steps + 1, tokens =>
      if tokens.isEmpty then some []
      else do
        let (label, tokens) := takeLabel isFirst tokens
        match takeVariadic? tokens with
        | some points => some (label ++ points)
        | none => do
            let (type, rest) ← readType? true steps tokens
            match takeMark? ',' rest with
            | some rest => do
                let others ← readParameters? false steps rest
                some (label ++ type.tokens ++ Token.single ',' :: others)
            | none => if rest.isEmpty then some (label ++ type.tokens) else none

end

def typeSteps (tokens : List Token) : Nat :=
  8 * Token.countAll tokens + 8

/-- The type at the front of the tokens. -/
def takeType? (tokens : List Token) : Option (TypeForm × List Token) :=
  readType? true (typeSteps tokens) tokens

/-- A type and nothing else. -/
def TypeForm.ofTokens? (tokens : List Token) : Option TypeForm :=
  match takeType? tokens with
  | some (type, []) => some type
  | _ => none

/-- The name of a type has no spaces. -/
def TypeForm.name (type : TypeForm) : String :=
  Token.compactTextOf type.tokens

def textTypes : List String :=
  ["String", "str"]

def integerTypes : List String :=
  ["i8", "i16", "i32", "i64", "i128", "isize", "u8", "u16", "u32", "u64", "u128", "usize"]

def otherTypes : List String :=
  ["bool", "char", "f32", "f64"]

/-- A type that is no primitive is a record. -/
def TypeForm.kind (type : TypeForm) : Kind :=
  match type.lastName with
  | none => .nested
  | some name =>
      if textTypes.contains name then .text
      else if integerTypes.contains name then .integer
      else if otherTypes.contains name then .other
      else .nested

end FieldRules.Source
