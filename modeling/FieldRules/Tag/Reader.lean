import FieldRules.Tag.Rule
import FieldRules.Text.Ascii
import FieldRules.Text.Blank
import FieldRules.Text.Pieces

/-!
This file reads the rules of a tag. A tag is a list of tokens between commas, and a token is a
keyword that may carry one argument in parentheses.
-/

namespace FieldRules

/-- Each way in which a token can fail to be a rule. -/
inductive TagFault where
  | emptyToken
  | missingKeyword
  | invalidKeyword
  | unclosedParen
  | unexpectedParen
  | nestedParen
  | emptyArgument
  | trailingText
  deriving Repr, DecidableEq

def TagFault.reason : TagFault → String
  | .emptyToken => "empty rule"
  | .missingKeyword => "missing rule name"
  | .invalidKeyword => "rule name may only contain ASCII letters, digits and `_`"
  | .unclosedParen => "unclosed `(`"
  | .unexpectedParen => "unexpected `)`"
  | .nestedParen => "nested `(`"
  | .emptyArgument => "empty argument"
  | .trailingText => "text after `)`"

/-- A malformed tag is reported with its first token that is not a rule. -/
structure MalformedTag where
  field : String
  tag : String
  token : String
  fault : TagFault
  deriving Repr, DecidableEq

def MalformedTag.message (error : MalformedTag) : String :=
  "malformed tag on field `" ++ error.field ++ "`: " ++ error.fault.reason ++ " in `" ++
    error.token ++ "` (tag `" ++ error.tag ++ "`)"

def isKeywordChar (c : Char) : Bool :=
  Text.isAsciiAlphanumeric c || c == '_'

def readKeyword (name : List Char) : Except TagFault String :=
  if name.isEmpty then .error .missingKeyword
  else if name.all isKeywordChar then .ok (String.ofList name)
  else .error .invalidKeyword

/-- This function reads the text after the opening parenthesis up to the end of the token. -/
def readArgument (rest : List Char) : Except TagFault String :=
  match Text.cutAt? ')' rest with
  | none => .error (if rest.contains '(' then .nestedParen else .unclosedParen)
  | some (inside, after) =>
      if inside.contains '(' then .error .nestedParen
      else if !(Text.trim after).isEmpty then
        .error (if after.contains ')' then .unexpectedParen else .trailingText)
      else if (Text.trim inside).isEmpty then .error .emptyArgument
      else .ok (String.ofList (Text.trim inside))

/-- The token has no blanks at its ends. -/
def readRule (token : List Char) : Except TagFault Rule :=
  if token.isEmpty then .error .emptyToken
  else
    match Text.cutAt? '(' token with
    | none =>
        if token.contains ')' then .error .unexpectedParen
        else
          match readKeyword token with
          | .error fault => .error fault
          | .ok keyword => .ok ⟨keyword, none⟩
    | some (name, rest) =>
        match readKeyword (Text.trim name) with
        | .error fault => .error fault
        | .ok keyword =>
            match readArgument rest with
            | .error fault => .error fault
            | .ok argument => .ok ⟨keyword, some argument⟩

/-- This function stops at the first token that is not a rule. -/
def readTokens (field tag : String) : List (List Char) → Except MalformedTag (List Rule)
  | [] => .ok []
  | token :: tokens =>
      match readRule token with
      | .error fault => .error ⟨field, tag, String.ofList token, fault⟩
      | .ok rule =>
          match readTokens field tag tokens with
          | .error error => .error error
          | .ok rules => .ok (rule :: rules)

def tagTokens (tag : List Char) : List (List Char) :=
  (Text.pieces (· == ',') tag).map Text.trim

/-- A blank tag has no rules. -/
def readTag (field tag : String) : Except MalformedTag (List Rule) :=
  if (Text.trim tag.toList).isEmpty then .ok []
  else readTokens field tag (tagTokens tag.toList)

end FieldRules
