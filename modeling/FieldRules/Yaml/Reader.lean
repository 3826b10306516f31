import FieldRules.Data.Basic
import FieldRules.Record.Codec
import FieldRules.Yaml.Token

/-!
This file reads YAML texts. Scalars stay texts, and an alias stands for the value of its anchor.
-/

namespace FieldRules.Yaml

/-- The tokens that are left, with the values of the anchors before them. -/
structure Rest where
  tokens : List Token
  anchors : List (String × Data)

def Rest.drop (rest : Rest) (tokens : List Token) : Rest :=
  { rest with tokens }

/-- A place that has no value holds an empty scalar. -/
def absent : Data :=
  .plain ""

/-- The anchor and the tag before a value, each at most once and in any order. -/
structure Properties where
  anchor : Option String
  tag : Option (String × String)

def readProperties : List Token → Properties × List Token
  | .anchor name :: .tag handle suffix :: tokens => (⟨some name, some (handle, suffix)⟩, tokens)
  | .tag handle suffix :: .anchor name :: tokens => (⟨some name, some (handle, suffix)⟩, tokens)
  | .anchor name :: tokens => (⟨some name, none⟩, tokens)
  | .tag handle suffix :: tokens => (⟨none, some (handle, suffix)⟩, tokens)
  | tokens => (⟨none, none⟩, tokens)

/-- The starts for which the handles of tags stand. -/
abbrev Handles := List (String × String)

def defaultHandles : Handles :=
  [("!", "!"), ("!!", "tag:yaml.org,2002:"), ("", "")]

/-- A mark is a whole tag without the exclamation mark in front. -/
def markOf? (handles : Handles) (handle suffix : String) : Option String := do
  let start ← handles.lookup handle
  match (start ++ suffix).toList with
  | '!' :: mark => some (String.ofList mark)
  | mark => some (String.ofList mark)

/-- The tag of a value becomes its mark, and its anchor names it from here on. -/
def attach? (handles : Handles) (properties : Properties) (data : Data) (rest : Rest) :
    Option (Data × Rest) := do
  let data ←
    match properties.tag with
    | none => some data
    | some (handle, suffix) => (markOf? handles handle suffix).map fun mark => Data.marked mark data
  match properties.anchor with
  | none => some (data, rest)
  | some name => some (data, { rest with anchors := (name, data) :: rest.anchors })

/-- A table whose keys are not all scalars has no value. -/
def tableOf (members : List (Data × Data)) : Data :=
  match members.mapM fun (key, value) => key.text?.map fun name => (name, value) with
  | some members => .table members
  | none => .unreadable

/-- The token begins no value, so that the value before it is absent. -/
def endsValue : Option Token → Bool
  | some .key => true
  | some .value => true
  | some .blockEnd => true
  | _ => false

def endsFlowValue : Option Token → Bool
  | some .comma => true
  | some .flowListEnd => true
  | some .flowTableEnd => true
  | _ => false

mutual

/-- A value; outside of brackets it may be a block. -/
def readValue? (handles : Handles) (inBlock afterKey : Bool) : Nat → Rest → Option (Data × Rest)
  | 0, _ => none
  | steps + 1, rest => do
      let (properties, tokens) := readProperties rest.tokens
      let hasProperties := properties.anchor.isSome || properties.tag.isSome
      match tokens with
      | .alias name :: tokens =>
          if hasProperties then none
          else (rest.anchors.lookup name).map fun data => (data, rest.drop tokens)
      | .scalar isPlain text :: tokens =>
          attach? handles properties (if isPlain then .plain text else .text text) (rest.drop tokens)
      | .flowList :: tokens =>
          let (items, rest) ← readFlowItems? handles true steps (rest.drop tokens)
          attach? handles properties (.list items) rest
      | .flowTable :: tokens =>
          let (members, rest) ← readFlowMembers? handles true steps (rest.drop tokens)
          attach? handles properties (tableOf members) rest
      | token :: tokens =>
          if token = .blockList && inBlock then do
            let (items, rest) ← readItems? handles false steps (rest.drop tokens)
            attach? handles properties (.list items) rest
          else if token = .item && afterKey then do
            let (items, rest) ← readItems? handles true steps (rest.drop (token :: tokens))
            attach? handles properties (.list items) rest
          else if token = .blockTable && inBlock then do
            let (members, rest) ← readMembers? handles steps (rest.drop tokens)
            attach? handles properties (tableOf members) rest
          else if hasProperties then
            attach? handles properties absent (rest.drop (token :: tokens))
          else none
      | [] => if hasProperties then attach? handles properties absent (rest.drop []) else none

/-- The items of a list in a block, up to its end. -/
def readItems? (handles : Handles) (isOpen : Bool) : Nat → Rest → Option (List Data × Rest)
  | 0, _ => none
  | steps + 1, rest =>
      match rest.tokens with
      | .item :: tokens => do
          let next := tokens.head?
          let isAbsent := next == some .item || next == some .blockEnd || (isOpen && endsValue next)
          let (item, rest) ←
            if isAbsent then some (absent, rest.drop tokens)
            else readValue? handles true false steps (rest.drop tokens)
          let (items, rest) ← readItems? handles isOpen steps rest
          some (item :: items, rest)
      | .blockEnd :: tokens => some ([], if isOpen then rest else rest.drop tokens)
      | _ => if isOpen then some ([], rest) else none

/-- The members of a table in a block. -/
def readMembers? (handles : Handles) : Nat → Rest → Option (List (Data × Data) × Rest)
  | 0, _ => none
  | steps + 1, rest =>
      match rest.tokens with
      | .key :: tokens => do
          let (key, rest) ←
            if endsValue tokens.head? then some (absent, rest.drop tokens)
            else readValue? handles true true steps (rest.drop tokens)
          let (value, rest) ←
            match rest.tokens with
            | .value :: tokens =>
                if endsValue tokens.head? then some (absent, rest.drop tokens)
                else readValue? handles true true steps (rest.drop tokens)
            | _ => some (absent, rest)
          let (members, rest) ← readMembers? handles steps rest
          some ((key, value) :: members, rest)
      | .blockEnd :: tokens => some ([], rest.drop tokens)
      | _ => none

/-- The items of a list in brackets; a key makes a table of one member. -/
def readFlowItems? (handles : Handles) (isFirst : Bool) : Nat → Rest → Option (List Data × Rest)
  | 0, _ => none
  | steps + 1, rest => do
      let rest ←
        match rest.tokens with
        | .flowListEnd :: _ => some rest
        | .comma :: tokens => if isFirst then none else some (rest.drop tokens)
        | _ => if isFirst then some rest else none
      match rest.tokens with
      | .flowListEnd :: tokens => some ([], rest.drop tokens)
      | .key :: tokens => do
          let (member, rest) ← readFlowMember? handles true steps (rest.drop tokens)
          let (items, rest) ← readFlowItems? handles false steps rest
          some (tableOf [member] :: items, rest)
      | _ => do
          let (item, rest) ← readValue? handles false false steps rest
          let (items, rest) ← readFlowItems? handles false steps rest
          some (item :: items, rest)

/-- The members of a table in braces; a value without a colon is a key. -/
def readFlowMembers? (handles : Handles) (isFirst : Bool) :
    Nat → Rest → Option (List (Data × Data) × Rest)
  | 0, _ => none
  | steps + 1, rest => do
      let rest ←
        match rest.tokens with
        | .flowTableEnd :: _ => some rest
        | .comma :: tokens => if isFirst then none else some (rest.drop tokens)
        | _ => if isFirst then some rest else none
      match rest.tokens with
      | .flowTableEnd :: tokens => some ([], rest.drop tokens)
      | .key :: tokens => do
          let (member, rest) ← readFlowMember? handles false steps (rest.drop tokens)
          let (members, rest) ← readFlowMembers? handles false steps rest
          some (member :: members, rest)
      | _ => do
          let (key, rest) ← readValue? handles false false steps rest
          let (members, rest) ← readFlowMembers? handles false steps rest
          some ((key, absent) :: members, rest)

/-- A member in brackets or braces, after the mark of its key. -/
def readFlowMember? (handles : Handles) (inList : Bool) :
    Nat → Rest → Option ((Data × Data) × Rest)
  | 0, _ => none
  | steps + 1, rest => do
      let next := rest.tokens.head?
      let (key, rest) ←
        if next == some .value || endsFlowValue next then
          some (absent, if inList then rest.drop rest.tokens.tail else rest)
        else readValue? handles false false steps rest
      match rest.tokens with
      | .value :: tokens => do
          let (value, rest) ←
            if endsFlowValue tokens.head? then some (absent, rest.drop tokens)
            else readValue? handles false false steps (rest.drop tokens)
          some ((key, value), rest)
      | _ => some ((key, absent), rest)

end

/-- The handles that the directives before a document define; none is defined twice. -/
def readDirectives? : Bool → Handles → List Token → Option (Handles × List Token)
  | hasVersion, handles, .directive name handle tagStart :: tokens =>
      if name = "YAML" then
        if hasVersion then none else readDirectives? true handles tokens
      else
        match handles.lookup handle with
        | some _ => none
        | none => readDirectives? hasVersion ((handle, tagStart) :: handles) tokens
  | _, handles, tokens => some (handles, tokens)

def endsDocument : Option Token → Bool
  | none => true
  | some (.directive ..) => true
  | some .documentStart => true
  | some .documentEnd => true
  | _ => false

/-- A text holds at most one document, and an empty text holds an absent value. -/
def document? (tokens : List Token) : Option Data := do
  if tokens.isEmpty then return absent
  let (handles, afterDirectives) ← readDirectives? false [] tokens
  let isMarked := afterDirectives.head? == some .documentStart
  if afterDirectives.length != tokens.length && !isMarked then none
  let content := if isMarked then afterDirectives.tail else afterDirectives
  let (data, rest) ←
    if isMarked && endsDocument content.head? then some (absent, Rest.mk content [])
    else readValue? (handles ++ defaultHandles) true false (2 * tokens.length + 2) ⟨content, []⟩
  if rest.tokens.all (· == .documentEnd) then some data else none

def tree? (text : String) : Option Data := do
  let characters :=
    match text.toList with
    | '\ufeff' :: rest => rest
    | characters => characters
  document? (← tokens? characters)

end FieldRules.Yaml
