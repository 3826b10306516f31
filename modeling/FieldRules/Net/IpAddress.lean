import FieldRules.Text.Numeral
import FieldRules.Text.Pieces

/-!
This file recognizes the literals of IPv4 and IPv6 addresses.
-/

namespace FieldRules.Net

/-- An octet has no leading zero. -/
def isOctet (text : List Char) : Bool :=
  text.length ≤ 3 && (text.head? != some '0' || text.length == 1) &&
    (Text.natural? text).any (· ≤ 255)

def isIpv4 (text : List Char) : Bool :=
  let octets := Text.pieces (· == '.') text
  octets.length == 4 && octets.all isOctet

def isGroup (text : List Char) : Bool :=
  !text.isEmpty && text.length ≤ 4 && text.all fun c => (Text.hexDigit? c).isSome

/-- The number of 16-bit groups; the last group may be an IPv4 address. -/
def groupCount? : List (List Char) → Option Nat
  | [] => some 0
  | [last] => if isGroup last then some 1 else if isIpv4 last then some 2 else none
  | group :: groups => if isGroup group then (groupCount? groups).map (· + 1) else none

/-- The texts around the first pair of colons. -/
def cutAtColons? : List Char → Option (List Char × List Char)
  | [] => none
  | c :: rest =>
      if c = ':' ∧ rest.head? = some ':' then some ([], rest.drop 1)
      else (cutAtColons? rest).map fun (before, after) => (c :: before, after)

def writtenGroups (text : List Char) : List (List Char) :=
  if text.isEmpty then [] else Text.pieces (· == ':') text

/-- A pair of colons stands for one group of zeros or more. -/
def isIpv6 (text : List Char) : Bool :=
  match cutAtColons? text with
  | none => groupCount? (writtenGroups text) == some 8
  | some (head, tail) =>
      let groups := writtenGroups head
      groups.all isGroup &&
        (groupCount? (writtenGroups tail)).any fun count => groups.length + count ≤ 7

def isIpAddress (input : String) : Bool :=
  isIpv4 input.toList || isIpv6 input.toList

end FieldRules.Net
