import FieldRules.Pattern.Basic

/-!
This file recognizes mailboxes: an address, or an address in angle brackets after an optional
display name of atoms and quoted words. The form is a pattern, and the domain has a greatest length.
-/

namespace FieldRules.Mail

def atomPattern : List Char :=
  "[A-Za-z0-9!#$%&'*+/=?^_\x60\x7b|\x7d~-]+".toList

/-- A label has 1 to 63 letters, digits and hyphens, and no hyphen at its ends. -/
def labelPattern : List Char :=
  "[A-Za-z0-9](?:[A-Za-z0-9-]\x7b0,61\x7d[A-Za-z0-9])?".toList

def addressPattern : List Char :=
  atomPattern ++ "(?:\\.".toList ++ atomPattern ++ ")*@".toList ++ labelPattern ++
    "(?:\\.".toList ++ labelPattern ++ ")*".toList

def wordPattern : List Char :=
  "(?:".toList ++ atomPattern ++ "|\"(?:[^\"\\\\]|\\\\.)*\")".toList

def mailboxPattern : List Char :=
  "^(?:(?:".toList ++ wordPattern ++ "(?:\\s+".toList ++ wordPattern ++
    ")*\\s*)?<(?P<angle>".toList ++ addressPattern ++ ")>|(?P<bare>".toList ++ addressPattern ++
    "))$".toList

def mailbox? : Option Pattern :=
  Pattern.compile? (String.ofList mailboxPattern)

/-- The greatest length of a domain. -/
def domainLimit : Nat := 253

/-- An address holds no angle bracket, so the last opening bracket of a mailbox begins it. -/
def addressPart (mailbox : List Char) : List Char :=
  match Text.cutAtLast? '<' mailbox with
  | none => mailbox
  | some (_, rest) => rest.dropLast

/-- The address of a mailbox, which may stand between blanks. -/
def mailboxAddress? (input : String) : Option String := do
  let text := String.ofList (Text.trim input.toList)
  let pattern ← mailbox?
  if !pattern.isMatch text then none
  let address := addressPart text.toList
  let (_, domain) ← Text.cutAtLast? '@' address
  if (String.ofList domain).utf8ByteSize ≤ domainLimit then some (String.ofList address) else none

def isMailbox (input : String) : Bool :=
  (mailboxAddress? input).isSome

end FieldRules.Mail
