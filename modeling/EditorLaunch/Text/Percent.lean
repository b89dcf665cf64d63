import EditorLaunch.Text.Hex
import EditorLaunch.Text.Utf8

/-!
# Percent escapes

An octet that may not stand in an address by itself is written as a percent sign
and two hexadecimal digits.  Which octets these are depends on the place.
Reading turns each percent sign with two digits behind it back into its octet
and leaves everything else alone.
-/

namespace EditorLaunch.Percent

def escape (octet : UInt8) : List Char :=
  ['%', Hex.capitalDigit (octet.toNat / 16), Hex.capitalDigit (octet.toNat % 16)]

/-- Writes a character, with escapes for its octets if it may not stand bare.
Characters beyond ASCII are always escaped. -/
def encodeChar (mustEscape : Char → Bool) (character : Char) : List Char :=
  if 0x80 ≤ character.toNat || mustEscape character then
    (String.utf8EncodeChar character).flatMap escape
  else [character]

def encode (mustEscape : Char → Bool) (characters : List Char) : List Char :=
  characters.flatMap (encodeChar mustEscape)

def digitValue? (octet : UInt8) : Option Nat :=
  Hex.value? (Char.ofNat octet.toNat)

/-- Turns escapes back into octets. -/
def decode : List UInt8 → List UInt8
  | 0x25 :: high :: low :: rest =>
      match digitValue? high, digitValue? low with
      | some first, some second => .ofNat (first * 16 + second) :: decode rest
      | _, _ => 0x25 :: decode (high :: low :: rest)
  | octet :: rest => octet :: decode rest
  | [] => []

/-- Controls: what is escaped everywhere. -/
def isControl (character : Char) : Bool :=
  character.toNat < 0x20 || character.toNat == 0x7F

def escapedInFragment (character : Char) : Bool :=
  isControl character || " \"<>`".toList.contains character

def escapedInPath (character : Char) : Bool :=
  escapedInFragment character || "#?\x7b\x7d".toList.contains character

def escapedInUserinfo (character : Char) : Bool :=
  escapedInPath character || "/:;=@[\\]^|".toList.contains character

def escapedInQuery (character : Char) : Bool :=
  isControl character || " \"#<>".toList.contains character

def escapedInSpecialQuery (character : Char) : Bool :=
  escapedInQuery character || character == '\''

end EditorLaunch.Percent
