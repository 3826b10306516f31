import FieldRules.Net.Host

/-!
This file recognizes absolute web addresses. Only the scheme, the user, the host and the port can
make a text no address; every path, query and fragment is taken.
-/

namespace FieldRules.Net

/-- Schemes differ in the hosts they take and in the sense of backslashes. -/
inductive SchemeKind where
  | file
  | special
  | other
  deriving Repr, DecidableEq

def SchemeKind.ofName (name : String) : SchemeKind :=
  if name = "file" then .file
  else if ["http", "https", "ws", "wss", "ftp"].contains name then .special
  else .other

def isSchemeChar (c : Char) : Bool :=
  Text.isAsciiAlphanumeric c || c == '+' || c == '-' || c == '.'

/-- A scheme starts with a letter and ends at a colon. -/
def splitScheme? (text : List Char) : Option (String × List Char) :=
  match Text.cutAt? ':' text with
  | some (first :: others, rest) =>
      if Text.isAsciiLetter first && others.all isSchemeChar then
        some (String.ofList ((first :: others).map Text.toAsciiLower), rest)
      else none
  | _ => none

def isSlash (c : Char) : Bool :=
  c == '/' || c == '\\'

/-- The authority ends where the path, the query or the fragment starts. -/
def endsAuthority (kind : SchemeKind) (c : Char) : Bool :=
  c == '/' || c == '?' || c == '#' || (kind != .other && c == '\\')

/-- A user may have a name and a password, parted by a colon. -/
def hasCredentials (user : List Char) : Bool :=
  match Text.cutAt? ':' user with
  | none => !user.isEmpty
  | some (name, password) => !name.isEmpty || !password.isEmpty

/-- The host ends at the first colon outside of brackets. -/
def splitPort (inBrackets : Bool) : List Char → List Char × Option (List Char)
  | [] => ([], none)
  | c :: rest =>
      if c = ':' ∧ !inBrackets then ([], some rest)
      else
        let inBrackets := if c = '[' then true else if c = ']' then false else inBrackets
        let (host, port) := splitPort inBrackets rest
        (c :: host, port)

/-- A port may be empty, and a backslash always ends it. -/
def isPort (text : List Char) : Bool :=
  let digits := text.takeWhile (· != '\\')
  digits.all Text.isDigit && Text.ofDigits digits < 65536

def isHostOf (kind : SchemeKind) (host : List Char) : Bool :=
  if kind = .other then isOpaqueHost host else isHost host

/-- An empty host stands alone, and only in a scheme of its own kind. -/
def isHostAndPort (kind : SchemeKind) (credentials : Bool) (text : List Char) : Bool :=
  let (host, port) := splitPort false text
  if host.isEmpty then kind == .other && !credentials && port.isNone
  else isHostOf kind host && port.all isPort

/-- The last sign before the path parts the user from the host. -/
def isAuthority (kind : SchemeKind) (text : List Char) : Bool :=
  let authority := text.takeWhile fun c => !endsAuthority kind c
  let rest := text.dropWhile fun c => !endsAuthority kind c
  match Text.cutAtLast? '@' authority with
  | none => isHostAndPort kind false authority
  | some ([], host) => !(host.isEmpty && !rest.isEmpty) && isHostAndPort kind false host
  | some (user, host) => isHostAndPort kind (hasCredentials user) host

/-- A letter with a colon or a bar names a drive. -/
def isDriveLetter (text : List Char) : Bool :=
  match text with
  | [letter, mark] => Text.isAsciiLetter letter && (mark == ':' || mark == '|')
  | _ => false

/-- After two slashes a file address may name a host. -/
def isFileRest (text : List Char) : Bool :=
  match text with
  | first :: second :: rest =>
      if isSlash first && isSlash second then
        let host := rest.takeWhile fun c => !(isSlash c || c == '?' || c == '#')
        host.isEmpty || isDriveLetter host || isHost host
      else true
  | _ => true

def isUrl (input : String) : Bool :=
  let isOuter (c : Char) : Bool := c ≤ ' '
  let trimmed := ((input.toList.dropWhile isOuter).reverse.dropWhile isOuter).reverse
  let text := trimmed.filter fun c => c != '\t' && c != '\n' && c != '\r'
  match splitScheme? text with
  | none => false
  | some (scheme, rest) =>
      match SchemeKind.ofName scheme with
      | .file => isFileRest rest
      | .special => isAuthority .special (rest.dropWhile isSlash)
      | .other =>
          match rest with
          | '/' :: '/' :: rest => isAuthority .other rest
          | _ => true

end FieldRules.Net
