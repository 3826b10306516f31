import FieldRules.Pattern.Expression
import FieldRules.Pattern.Regex
import FieldRules.Unicode.PropertyValue
import FieldRules.Unicode.Script

/-!
This file gives written expressions their meaning as regular expressions. The flags in force decide
what dots, anchors, letters and classes stand for, and a few combinations have no meaning.
-/

namespace FieldRules.Pattern

open Unicode

/-- Without the flag `unicode`, classes hold ASCII characters only. -/
structure Mode where
  ignoreCase : Bool
  multiLine : Bool
  dotAll : Bool
  unicode : Bool
  carriageReturn : Bool
  deriving Repr, DecidableEq

def Mode.start : Mode :=
  ⟨false, false, false, true, false⟩

def Mode.set (mode : Mode) (flag : Flag) (on : Bool) : Mode :=
  match flag with
  | .ignoreCase => { mode with ignoreCase := on }
  | .multiLine => { mode with multiLine := on }
  | .dotAll => { mode with dotAll := on }
  | .unicode => { mode with unicode := on }
  | .carriageReturn => { mode with carriageReturn := on }
  | .swapGreed => mode
  | .ignoreBlanks => mode

def Mode.change (mode : Mode) (change : FlagChange) : Mode :=
  change.foldl (fun mode (flag, on) => mode.set flag on) mode

/-- A loose name has neither blanks, hyphens, underscores nor a leading `is`, and no capitals. -/
def looseName (name : List Char) : String :=
  let lower := name.map Text.toAsciiLower
  let (hasPrefix, body) := match lower with
    | 'i' :: 's' :: rest => (true, rest)
    | rest => (false, rest)
  let kept := body.filter fun c => Text.isAscii c && c != ' ' && c != '_' && c != '-'
  String.ofList (if hasPrefix && kept == ['c'] then ['i', 's', 'c'] else kept)

def sameName (name : String) (known : String) : Bool :=
  looseName known.toList == name

def propertyNamed? (name : String) : Option CharSet :=
  (Property.names.find? fun (short, long, _) => sameName name short || sameName name long).map
    fun (_, _, property) => .property property

/-- Some categories have a third name. -/
def categoryAliases : List (String × String) :=
  [("punct", "p"), ("digit", "nd"), ("cntrl", "cc"), ("combiningmark", "m")]

def categoryNamed? (name : String) : Option CharSet :=
  let name := ((categoryAliases.find? fun (spelling, _) => spelling == name).map Prod.snd).getD name
  match name with
  | "any" => some .all
  | "assigned" => some (.complement (.category .unassigned))
  | "ascii" => some (.range '\x00' '\x7f')
  | _ =>
      match GeneralCategory.names.find? fun (short, long, _) =>
          sameName name short || sameName name long with
      | some (_, _, category) => some (.category category)
      | none =>
          (GeneralCategory.groups.find? fun (short, long, _) =>
            sameName name short || sameName name long).map
              fun (_, _, categories) => .ofCategories categories

/-- Two scripts have a further code. -/
def scriptAliases : List (String × String) :=
  [("qaac", "copt"), ("qaai", "zinh")]

def scriptNamed? (name : String) : Option Script :=
  let name := ((scriptAliases.find? fun (spelling, _) => spelling == name).map Prod.snd).getD name
  Script.all.find? fun script => sameName name script.code || sameName name script.name

def namesValue (name : String) (value : PropertyValue) : Bool :=
  sameName name value.code || sameName name value.name

/-- A version has the characters of all versions up to it. -/
def ageNamed? (name : String) : Option CharSet :=
  (ages.findIdx? (namesValue name)).map fun index =>
    .unionOf ((ages.take (index + 1)).map fun age => .points age.points)

def valueNamed? (values : List PropertyValue) (name : String) : Option CharSet :=
  (values.find? (namesValue name)).map fun value => .points value.points

/-- Three short names mean a category although a property has the same abbreviation. -/
def PropertyQuery.characters? : PropertyQuery → Option CharSet
  | .named name =>
      let name := looseName name
      match propertyNamed? name with
      | some set => if name == "cf" || name == "sc" || name == "lc" then categoryNamed? name
          else some set
      | none =>
          match categoryNamed? name with
          | some set => some set
          | none => (scriptNamed? name).map fun script => .points script.members
  | .valued name value =>
      let name := looseName name
      let value := looseName value
      if name == "gc" || name == "generalcategory" then categoryNamed? value
      else if name == "sc" || name == "script" then
        (scriptNamed? value).map fun script => .points script.members
      else if name == "scx" || name == "scriptextensions" then
        (scriptNamed? value).map fun script => .points script.extensions
      else if name == "age" then ageNamed? value
      else if name == "gcb" || name == "graphemeclusterbreak" then valueNamed? graphemeBreaks value
      else if name == "wb" || name == "wordbreak" then valueNamed? wordBreaks value
      else if name == "sb" || name == "sentencebreak" then valueNamed? sentenceBreaks value
      else none

def AsciiClass.characters : AsciiClass → CharSet
  | .alnum => .ofRanges [('0', '9'), ('A', 'Z'), ('a', 'z')]
  | .alpha => .ofRanges [('A', 'Z'), ('a', 'z')]
  | .ascii => .range '\x00' '\x7f'
  | .blank => .ofRanges [('\t', '\t'), (' ', ' ')]
  | .cntrl => .ofRanges [('\x00', '\x1f'), ('\x7f', '\x7f')]
  | .digit => .asciiDigits
  | .graph => .range '!' '~'
  | .lower => .range 'a' 'z'
  | .print => .range ' ' '~'
  | .punct => .ofRanges [('!', '/'), (':', '@'), ('[', '\x60'), ('\x7b', '~')]
  | .space => .asciiSpaces
  | .upper => .range 'A' 'Z'
  | .word => .asciiWord
  | .xdigit => .ofRanges [('0', '9'), ('A', 'F'), ('a', 'f')]

def PerlClass.characters (mode : Mode) : PerlClass → CharSet
  | .digit => if mode.unicode then .digits else .asciiDigits
  | .space => if mode.unicode then .spaces else .asciiSpaces
  | .word => if mode.unicode then .word else .asciiWord

def Mode.fold (mode : Mode) (set : CharSet) : CharSet :=
  if mode.ignoreCase then if mode.unicode then .folded set else .foldedAscii set else set

/-- Case is folded first, and only Unicode sets can be turned around. -/
def Mode.foldAndNegate? (mode : Mode) (negated : Bool) (set : CharSet) : Option CharSet :=
  if negated then if mode.unicode then some (.complement (mode.fold set)) else none
  else some (mode.fold set)

def Mode.perl? (mode : Mode) (kind : PerlClass) (negated : Bool) : Option CharSet :=
  let set := kind.characters mode
  if negated then if mode.unicode then some (.complement set) else none else some set

def Mode.property? (mode : Mode) (query : PropertyQuery) (negated : Bool) : Option CharSet :=
  if mode.unicode then query.characters?.bind (mode.foldAndNegate? negated) else none

/-- A byte above ASCII is no character, and sets without Unicode hold ASCII only. -/
def Mode.setLiteral? (mode : Mode) (literal : Literal) : Option Char :=
  if mode.unicode || Text.isAscii literal.char then some literal.char else none

mutual

def SetItem.characters? (mode : Mode) : SetItem → Option CharSet
  | .empty => some .empty
  | .literal value => (mode.setLiteral? value).map .single
  | .range first last => do
      let first ← mode.setLiteral? first
      let last ← mode.setLiteral? last
      some (.range first last)
  | .ascii kind negated => mode.foldAndNegate? negated kind.characters
  | .perl kind negated => mode.perl? kind negated
  | .property query negated => mode.property? query negated
  | .bracketed negated inner => (inner.characters? mode).bind (mode.foldAndNegate? negated)
  | .union items => SetItem.unionCharacters? mode items
  | .operation kind left right => do
      let left ← left.characters? mode
      let right ← right.characters? mode
      let (left, right) := (mode.fold left, mode.fold right)
      match kind with
      | .intersection => some (.intersection left right)
      | .difference => some (.difference left right)
      | .symmetricDifference => some (.symmetricDifference left right)

def SetItem.unionCharacters? (mode : Mode) : List SetItem → Option CharSet
  | [] => some .empty
  | item :: items => do
      let set ← item.characters? mode
      let others ← SetItem.unionCharacters? mode items
      some (.union set others)

end

def Mode.dot? (mode : Mode) : Option CharSet :=
  if !mode.unicode then none
  else if mode.dotAll then some .all
  else if mode.carriageReturn then some (.complement (.union (.single '\n') (.single '\r')))
  else some (.complement (.single '\n'))

def Mode.assertion (mode : Mode) : AssertionMark → Assertion
  | .caret =>
      if !mode.multiLine then .textStart
      else if mode.carriageReturn then .lineStartAny else .lineStart
  | .dollar =>
      if !mode.multiLine then .textEnd
      else if mode.carriageReturn then .lineEndAny else .lineEnd
  | .textStart => .textStart
  | .textEnd => .textEnd
  | .boundary => if mode.unicode then .wordBoundary else .asciiWordBoundary
  | .notBoundary => if mode.unicode then .notWordBoundary else .asciiNotWordBoundary
  | .wordStart => if mode.unicode then .wordStart else .asciiWordStart
  | .wordEnd => if mode.unicode then .wordEnd else .asciiWordEnd
  | .wordStartHalf => if mode.unicode then .wordStartHalf else .asciiWordStartHalf
  | .wordEndHalf => if mode.unicode then .wordEndHalf else .asciiWordEndHalf

def Atom.regex? (mode : Mode) : Atom → Option Regex
  | .literal value =>
      if !mode.unicode && value.isByte && !Text.isAscii value.char then none
      else some (.one (mode.fold (.single value.char)))
  | .dot => mode.dot?.map .one
  | .assertion mark => some (.look (mode.assertion mark))
  | .perl kind negated => (mode.perl? kind negated).map .one
  | .property query negated => (mode.property? query negated).map .one

def Regex.sets? : List Regex → Option (List CharSet)
  | [] => some []
  | .one set :: branches => (Regex.sets? branches).map (set :: ·)
  | _ :: _ => none

/-- Alternatives that are all single characters, or all larger sets, are one set. -/
def Regex.joined? (branches : List Regex) : Option CharSet :=
  (Regex.sets? branches).bind fun sets =>
    if sets.all CharSet.isSingle || !sets.any CharSet.isSingle then some (.unionOf sets) else none

/-- Alternatives are tried from left to right. -/
def Regex.chain : List Regex → Regex
  | [] => .empty
  | [branch] => branch
  | branch :: branches => .alt branch (Regex.chain branches)

def Regex.ofBranches : List Regex → Regex
  | [] => .empty
  | branches => ((Regex.joined? branches).map .one).getD (Regex.chain branches)

mutual

/-- A change of flags holds up to the end of the group in which it stands. -/
def Expression.regex? (mode : Mode) : Expression → Option (Regex × Mode)
  | .empty => some (.empty, mode)
  | .flags change => some (.empty, mode.change change)
  | .atom part => (part.regex? mode).map fun regex => (regex, mode)
  | .bracketed negated inner =>
      ((inner.characters? mode).bind (mode.foldAndNegate? negated)).map fun set =>
        (.one set, mode)
  | .repetition inner least most => do
      let (regex, mode) ← inner.regex? mode
      some (.repeated regex least most, mode)
  | .group _ change inner => do
      let (regex, _) ← inner.regex? (mode.change change)
      some (regex, mode)
  | .alternation branches => do
      let (regexes, mode) ← Expression.regexes? mode branches
      some (.ofBranches regexes, mode)
  | .concatenation parts => do
      let (regexes, mode) ← Expression.regexes? mode parts
      some (regexes.foldr .seq .empty, mode)

def Expression.regexes? (mode : Mode) : List Expression → Option (List Regex × Mode)
  | [] => some ([], mode)
  | part :: parts => do
      let (regex, mode) ← part.regex? mode
      let (regexes, mode) ← Expression.regexes? mode parts
      some (regex :: regexes, mode)

end

end FieldRules.Pattern
