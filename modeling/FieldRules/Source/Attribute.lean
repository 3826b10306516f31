import FieldRules.Source.Literal
import FieldRules.Source.Type

/-!
This file reads the attributes of Rust source and the items of the attribute that holds a tag.
-/

namespace FieldRules.Source

/-- What follows the path of an attribute. -/
inductive AttributeBody where
  | none
  | list (bracket : Bracket) (inner : List Token)
  | value (tokens : List Token)

structure Attribute where
  path : List Token
  body : AttributeBody

/-- The names of a path without arguments, with colons between them. -/
def takeAttributePath? : Nat → List Token → Option (List Token × List Token)
  | 0, _ => none
  | steps + 1, tokens =>
      match tokens with
      | .word word :: rest =>
          if !isSegment word && word != "unsafe" then none
          else if startsWithColons rest then do
            let (others, rest) ← takeAttributePath? steps (rest.drop 2)
            some (.word word :: colons ++ others, rest)
          else some ([.word word], rest)
      | _ => none

/-- The content of an attribute, between its brackets. -/
def Attribute.ofTokens? (tokens : List Token) : Option Attribute := do
  let (leading, rest) := if startsWithColons tokens then (colons, tokens.drop 2) else ([], tokens)
  let (path, rest) ← takeAttributePath? (rest.length + 1) rest
  let body ←
    match rest with
    | [] => some AttributeBody.none
    | [.group bracket inner] => some (.list bracket inner)
    | .mark '=' _ :: value => if value.isEmpty then Option.none else some (.value value)
    | _ => Option.none
  some ⟨leading ++ path, body⟩

/-- The tokens of an attribute with its hash. -/
def Attribute.tokens (item : Attribute) : List Token :=
  let body :=
    match item.body with
    | .none => []
    | .list bracket inner => [.group bracket inner]
    | .value value => Token.single '=' :: Token.spacedAll 0 value
  [.single '#', .group .square (item.path ++ body)]

/-- The attributes in front of an item. -/
def takeAttributes? : Nat → List Token → Option (List Attribute × List Token)
  | 0, _ => none
  | steps + 1, tokens =>
      match tokens with
      | .mark '#' _ :: .group .square inner :: rest => do
          let item ← Attribute.ofTokens? inner
          let (items, rest) ← takeAttributes? steps rest
          some (item :: items, rest)
      | _ => some ([], tokens)

def attributesAt? (tokens : List Token) : Option (List Attribute × List Token) :=
  takeAttributes? (tokens.length + 1) tokens

/-! ### Tag attributes -/

/-- A tag attribute holds tags, keys with values and flags. -/
inductive TagItem where
  | tag (text : String)
  | keyed (key value : String)
  | flag (name : String)
  deriving Repr, DecidableEq

/-- Each way in which the items of a tag attribute can be wrong. -/
inductive TagItemError where
  | expectedName
  | reservedName (word : String)
  | expectedText
  | missingText
  | expectedComma
  | noList
  | unknownFlag (name : String)
  | unknownKey (name : String)
  deriving Repr, DecidableEq

def TagItemError.message : TagItemError → String
  | .expectedName => "expected identifier"
  | .reservedName word => "expected identifier, found keyword \x60" ++ word ++ "\x60"
  | .expectedText => "expected string literal"
  | .missingText => "unexpected end of input, expected string literal"
  | .expectedComma => "expected \x60,\x60"
  | .noList => "expected #[tagval(\"...\")]"
  | .unknownFlag name => "unknown flag \x60" ++ name ++ "\x60"
  | .unknownKey name => "unknown key \x60" ++ name ++ "\x60"

/-- The value of a string literal. -/
def stringValue? : Token → Option String
  | .literal text => (readString? text.toList).map fun (value, _) => String.ofList value
  | _ => none

def takeTagItem (token : Token) (rest : List Token) : Except TagItemError (TagItem × List Token) :=
  match stringValue? token with
  | some text => .ok (.tag text, rest)
  | none =>
      match token with
      | .word word =>
          if !isName word then .error (.reservedName word)
          else
            match takeMark? '=' rest with
            | none => .ok (.flag word, rest)
            | some [] => .error .missingText
            | some (value :: rest) =>
                match stringValue? value with
                | some text => .ok (.keyed word text, rest)
                | none => .error .expectedText
      | _ => .error .expectedName

/-- The items have commas between them, and one more may follow. -/
def readTagItems : Nat → List Token → Except TagItemError (List TagItem)
  | 0, _ => .error .expectedName
  | _, [] => .ok []
  | steps + 1, token :: rest =>
      match takeTagItem token rest with
      | .error error => .error error
      | .ok (item, []) => .ok [item]
      | .ok (item, rest) =>
          match takeMark? ',' rest with
          | none => .error .expectedComma
          | some rest => (readTagItems steps rest).map fun items => item :: items

/-- The items of one attribute; other attributes have none. -/
def Attribute.tagItems (item : Attribute) : Except TagItemError (List TagItem) :=
  match item.path with
  | [.word "tagval"] =>
      match item.body with
      | .list _ inner => readTagItems (inner.length + 1) inner
      | _ => .error .noList
  | _ => .ok []

/-- The items of all attributes in order. -/
def tagItemsOf : List Attribute → Except TagItemError (List TagItem)
  | [] => .ok []
  | first :: others =>
      match first.tagItems with
      | .error error => .error error
      | .ok items => (tagItemsOf others).map fun more => items ++ more

/-- The text of a tag item. -/
def TagItem.tag? : TagItem → Option String
  | .tag text => some text
  | .keyed key value => if key = "tag" then some value else none
  | .flag _ => none

/-- All tags of a field are joined by commas. -/
def joinedTag? (items : List TagItem) : Option String :=
  match items.filterMap TagItem.tag? with
  | [] => none
  | tags => some (",".intercalate tags)

def skips (items : List TagItem) : Bool :=
  items.contains (.flag "skip")

/-- The only flag is `skip`, and the only key is `tag`. -/
def TagItem.fault? : TagItem → Option TagItemError
  | .tag _ => none
  | .keyed key _ => if key = "tag" then none else some (.unknownKey key)
  | .flag name => if name = "skip" then none else some (.unknownFlag name)

def rejection? (items : List TagItem) : Option TagItemError :=
  items.findSome? TagItem.fault?

end FieldRules.Source
