import FieldRules.Net.DomainName
import FieldRules.Net.IpAddress
import FieldRules.Text.Utf8

/-!
This file recognizes the hosts of web addresses: domain names, addresses in brackets and numbers in
several notations.
-/

namespace FieldRules.Net

/-- The next part of a host name is a character or percent-encoded bytes. -/
inductive HostPart where
  | char (c : Char)
  | byte (value : Nat)

/-- A percent sign without two hexadecimal digits stands for itself. -/
def percentParts : Nat → List Char → List HostPart
  | 0, _ => []
  | _, [] => []
  | steps + 1, '%' :: high :: low :: rest =>
      match Text.hexDigit? high, Text.hexDigit? low with
      | some highValue, some lowValue =>
          .byte (highValue * 16 + lowValue) :: percentParts steps rest
      | _, _ => .char '%' :: percentParts steps (high :: low :: rest)
  | steps + 1, c :: rest => .char c :: percentParts steps rest

/-- Neighbouring bytes form characters together. -/
def joinParts? : List Nat → List HostPart → Option (List Char)
  | bytes, [] => Text.decodeUtf8? bytes
  | bytes, .byte value :: rest => joinParts? (bytes ++ [value]) rest
  | bytes, .char c :: rest => do
      let before ← Text.decodeUtf8? bytes
      let after ← joinParts? [] rest
      some (before ++ c :: after)

def percentDecode? (text : List Char) : Option (List Char) :=
  joinParts? [] (percentParts text.length text)

/-! A name whose last label is a number is an IPv4 address. -/

def isIn (low high : Char) (c : Char) : Bool :=
  low ≤ c && c ≤ high

/-- A number starts with `0x` in base 16 and with `0` in base 8. -/
def hostNumber? (text : List Char) : Option Nat :=
  match text with
  | [] => none
  | '0' :: 'x' :: digits => inBase 16 (fun c => (Text.hexDigit? c).isSome) digits
  | '0' :: 'X' :: digits => inBase 16 (fun c => (Text.hexDigit? c).isSome) digits
  | '0' :: digit :: digits => inBase 8 (isIn '0' '7') (digit :: digits)
  | digits => inBase 10 Text.isDigit digits
where
  inBase (base : Nat) (accepts : Char → Bool) (digits : List Char) : Option Nat :=
    if digits.all accepts then
      some (digits.foldl (fun value c => value * base + (Text.hexDigit? c).getD 0) 0)
    else none

/-- An empty label at the end does not count. -/
def countedLabels (labels : List (List Char)) : List (List Char) :=
  if labels.getLast? == some [] then labels.dropLast else labels

def endsInNumber (labels : List (List Char)) : Bool :=
  match (countedLabels labels).getLast? with
  | none => false
  | some last => (!last.isEmpty && last.all Text.isDigit) || (hostNumber? last).isSome

/-- All numbers but the last are octets, and the last one fills the remaining bytes. -/
def isIpv4Host (labels : List (List Char)) : Bool :=
  let labels := countedLabels labels
  let numbers := labels.map hostNumber?
  labels.length ≤ 4 && numbers.all Option.isSome &&
    numbers.dropLast.all (fun number => number.any (· ≤ 255)) &&
    (numbers.getLast?.join).any fun last => last < Nat.pow 256 (5 - labels.length)

def isDomainHost (text : List Char) : Bool :=
  match (percentDecode? text).bind domainLabels? with
  | none => false
  | some labels =>
      labels != [[]] && (!endsInNumber labels || isIpv4Host labels)

/-- An address in brackets is an IPv6 address. -/
def bracketed? (text : List Char) : Option (List Char) :=
  match text with
  | '[' :: rest => some (if rest.getLast? == some ']' then rest.dropLast else [])
  | _ => none

/-- The hosts of the schemes that every browser knows. -/
def isHost (text : List Char) : Bool :=
  match bracketed? text with
  | some address => isIpv6 address
  | none => isDomainHost text

/-- Other schemes take any host without these characters. -/
def isOpaqueHost (text : List Char) : Bool :=
  match bracketed? text with
  | some address => isIpv6 address
  | none => !text.any fun c => "\x00\t\n\r #/:<>?@[\\]^|".toList.contains c

end FieldRules.Net
