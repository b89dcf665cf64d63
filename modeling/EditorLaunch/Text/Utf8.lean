/-!
# Text and octets

Characters are sent as UTF-8.  Octets that are read back may be damaged: reading
them leniently puts a mark in place of each longest piece that begins a character
without finishing it, which is the replacement character in texts.
-/

namespace EditorLaunch.Utf8

def encode (characters : List Char) : List UInt8 :=
  characters.flatMap String.utf8EncodeChar

def ofText (text : String) : List UInt8 :=
  encode text.toList

/-- The text that octets spell, if they are well formed. -/
def toText? (octets : List UInt8) : Option String :=
  String.fromUTF8? ⟨octets.toArray⟩

def replacement : Char := Char.ofNat 0xFFFD

/-- What the first octet of a character announces: the bits it carries, how many
octets follow, and the bounds of the next one. -/
structure Lead where
  bits : Nat
  following : Nat
  low : Nat
  high : Nat

/-- Reads the first octet of a character. -/
def lead? (octet : UInt8) : Option Lead :=
  let value := octet.toNat
  if value < 0x80 then some ⟨value, 0, 0x80, 0xBF⟩
  else if 0xC2 ≤ value ∧ value ≤ 0xDF then some ⟨value - 0xC0, 1, 0x80, 0xBF⟩
  else if value = 0xE0 then some ⟨0, 2, 0xA0, 0xBF⟩
  else if value = 0xED then some ⟨0xD, 2, 0x80, 0x9F⟩
  else if 0xE1 ≤ value ∧ value ≤ 0xEF then some ⟨value - 0xE0, 2, 0x80, 0xBF⟩
  else if value = 0xF0 then some ⟨0, 3, 0x90, 0xBF⟩
  else if 0xF1 ≤ value ∧ value ≤ 0xF3 then some ⟨value - 0xF0, 3, 0x80, 0xBF⟩
  else if value = 0xF4 then some ⟨4, 3, 0x80, 0x8F⟩
  else none

/-- Adds the bits of the octets that have to follow.  Answers the code point, or
nothing when one of them is missing, and the octets that are left. -/
def follow : (count value low high : Nat) → List UInt8 → Option Nat × List UInt8
  | 0, value, _, _, octets => (some value, octets)
  | _ + 1, _, _, _, [] => (none, [])
  | count + 1, value, low, high, octet :: rest =>
      if low ≤ octet.toNat ∧ octet.toNat ≤ high then
        follow count (value * 64 + (octet.toNat - 0x80)) 0x80 0xBF rest
      else (none, octet :: rest)

theorem length_follow_le (count value low high : Nat) (octets : List UInt8) :
    (follow count value low high octets).2.length ≤ octets.length := by
  induction count generalizing value low high octets with
  | zero => simp [follow]
  | succ count ih =>
      cases octets with
      | nil => simp [follow]
      | cons octet rest =>
          simp only [follow]
          split
          · exact Nat.le_succ_of_le (ih _ _ _ _)
          · exact Nat.le_refl _

/-- Reads octets, with a mark in place of the damaged ones. -/
def decodeMarking (mark : List Char) : List UInt8 → List Char
  | [] => []
  | octet :: rest =>
      match lead? octet with
      | none => mark ++ decodeMarking mark rest
      | some lead =>
          let outcome := follow lead.following lead.bits lead.low lead.high rest
          (outcome.1.map fun code => [Char.ofNat code]).getD mark ++
            decodeMarking mark outcome.2
termination_by octets => octets.length
decreasing_by
  · exact Nat.lt_succ_self _
  · exact Nat.lt_succ_of_le (length_follow_le ..)

/-- Reads octets, replacing the damaged ones. -/
def decodeLossy (octets : List UInt8) : List Char :=
  decodeMarking [replacement] octets

/-- Reads octets as text, replacing the damaged ones. -/
def toTextLossy (octets : List UInt8) : String :=
  String.ofList (decodeLossy octets)

end EditorLaunch.Utf8
