import EditorLaunch.Text.Percent

/-!
# Form-encoded pairs

Names and values are joined by equals signs and the pairs by ampersands.  A blank
is written as a plus sign, letters, digits and four marks stand for themselves,
and every other octet is escaped.  Reading accepts anything: empty pieces are
skipped, a piece without an equals sign has an empty value, and damaged octets
are replaced.
-/

namespace EditorLaunch.Form

/-- A name with its value. -/
abbrev Pair := String × String

/-- Whether a character stands for itself. -/
def isBare (character : Char) : Bool :=
  character.isAlphanum || character == '*' || character == '-' || character == '.' ||
    character == '_'

def encodeChar (character : Char) : List Char :=
  if character = ' ' then ['+']
  else Percent.encodeChar (fun other => !isBare other) character

def encodeText (text : String) : List Char :=
  text.toList.flatMap encodeChar

def encodePair (pair : Pair) : List Char :=
  encodeText pair.1 ++ '=' :: encodeText pair.2

def encode (pairs : List Pair) : String :=
  String.ofList (List.intercalate ['&'] (pairs.map encodePair))

def decodeText (octets : List UInt8) : String :=
  Utf8.toTextLossy (Percent.decode (octets.map fun octet => if octet = 0x2B then 0x20 else octet))

def decodePair (octets : List UInt8) : Pair :=
  (decodeText (octets.takeWhile (· != 0x3D)),
    decodeText ((octets.dropWhile (· != 0x3D)).drop 1))

def decodeOctets (octets : List UInt8) : List Pair :=
  ((octets.splitOn 0x26).filter (!·.isEmpty)).map decodePair

def decode (text : String) : List Pair :=
  decodeOctets (Utf8.ofText text)

end EditorLaunch.Form
