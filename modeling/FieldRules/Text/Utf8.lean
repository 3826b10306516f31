/-!
This file reads characters from bytes by the rules of UTF-8.
-/

namespace FieldRules.Text

def isContinuation (byte : Nat) : Bool :=
  0x80 ≤ byte && byte ≤ 0xbf

def continuationBits (byte : Nat) : Nat :=
  byte - 0x80

/-- The second byte has a smaller range after some lead bytes. -/
def secondRange (lead : Nat) : Nat × Nat :=
  if lead = 0xe0 then (0xa0, 0xbf)
  else if lead = 0xed then (0x80, 0x9f)
  else if lead = 0xf0 then (0x90, 0xbf)
  else if lead = 0xf4 then (0x80, 0x8f)
  else (0x80, 0xbf)

def isSecond (lead byte : Nat) : Bool :=
  (secondRange lead).1 ≤ byte && byte ≤ (secondRange lead).2

/-- The character at the front of the bytes and its further bytes. -/
def readUtf8? (lead : Nat) (rest : List Nat) : Option (Char × Nat) :=
  if lead < 0x80 then some (Char.ofNat lead, 0)
  else if 0xc2 ≤ lead && lead ≤ 0xdf then
    match rest with
    | second :: _ =>
        if isContinuation second then
          some (Char.ofNat ((lead - 0xc0) * 64 + continuationBits second), 1)
        else none
    | _ => none
  else if 0xe0 ≤ lead && lead ≤ 0xef then
    match rest with
    | second :: third :: _ =>
        if isSecond lead second && isContinuation third then
          some (Char.ofNat (((lead - 0xe0) * 64 + continuationBits second) * 64 +
            continuationBits third), 2)
        else none
    | _ => none
  else if 0xf0 ≤ lead && lead ≤ 0xf4 then
    match rest with
    | second :: third :: fourth :: _ =>
        if isSecond lead second && isContinuation third && isContinuation fourth then
          some (Char.ofNat ((((lead - 0xf0) * 64 + continuationBits second) * 64 +
            continuationBits third) * 64 + continuationBits fourth), 3)
        else none
    | _ => none
  else none

/-- The number counts the bytes that the last character still covers. -/
def decodeUtf8From? : Nat → List Nat → Option (List Char)
  | _, [] => some []
  | covered + 1, _ :: rest => decodeUtf8From? covered rest
  | 0, lead :: rest =>
      match readUtf8? lead rest with
      | none => none
      | some (c, covered) => (decodeUtf8From? covered rest).map (c :: ·)

/-- This function fails on every byte that does not belong to a character. -/
def decodeUtf8? (bytes : List Nat) : Option (List Char) :=
  decodeUtf8From? 0 bytes

end FieldRules.Text
