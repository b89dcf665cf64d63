/-!
# Base 64 for addresses

Octets are written with the alphabet that is safe in addresses: letters, digits,
the hyphen and the underscore, four symbols for three octets.  Writing pads the
last group with equals signs or leaves the padding out.

Reading takes padding as it comes, from none to the full one, and is strict
about the rest: unknown symbols, a lone last symbol, padding in the wrong place
and left-over bits are refused, each with the place where it was met.
-/

namespace EditorLaunch.Base64

/-- Why octets are no written form. -/
inductive DecodeError where
  | symbol (offset : Nat) (octet : UInt8)
  | length (count : Nat)
  | lastSymbol (offset : Nat) (octet : UInt8)
deriving DecidableEq, Repr

def DecodeError.message : DecodeError → String
  | symbol offset octet => s!"Invalid symbol {octet.toNat}, offset {offset}."
  | length count => s!"Invalid input length: {count}"
  | lastSymbol offset octet => s!"Invalid last symbol {octet.toNat}, offset {offset}."

def padding : UInt8 := 0x3D

def symbolOf (bits : Nat) : UInt8 :=
  if bits < 26 then .ofNat (0x41 + bits)
  else if bits < 52 then .ofNat (0x61 + (bits - 26))
  else if bits < 62 then .ofNat (0x30 + (bits - 52))
  else if bits = 62 then 0x2D
  else 0x5F

def bitsOf? (octet : UInt8) : Option Nat :=
  let value := octet.toNat
  if 0x41 ≤ value ∧ value ≤ 0x5A then some (value - 0x41)
  else if 0x61 ≤ value ∧ value ≤ 0x7A then some (value - 0x61 + 26)
  else if 0x30 ≤ value ∧ value ≤ 0x39 then some (value - 0x30 + 52)
  else if value = 0x2D then some 62
  else if value = 0x5F then some 63
  else none

/-- The written form without padding. -/
def encode : List UInt8 → List UInt8
  | first :: second :: third :: rest =>
      symbolOf (first.toNat / 4) ::
      symbolOf (first.toNat % 4 * 16 + second.toNat / 16) ::
      symbolOf (second.toNat % 16 * 4 + third.toNat / 64) ::
      symbolOf (third.toNat % 64) :: encode rest
  | [first, second] =>
      [symbolOf (first.toNat / 4), symbolOf (first.toNat % 4 * 16 + second.toNat / 16),
        symbolOf (second.toNat % 16 * 4)]
  | [first] => [symbolOf (first.toNat / 4), symbolOf (first.toNat % 4 * 16)]
  | [] => []

/-- How many equals signs complete the last group of so many octets. -/
def paddingCount (count : Nat) : Nat :=
  match count % 3 with
  | 0 => 0
  | 1 => 2
  | _ => 1

/-- The written form with its full padding. -/
def encodePadded (octets : List UInt8) : List UInt8 :=
  encode octets ++ List.replicate (paddingCount octets.length) padding

def readSymbol (offset : Nat) (octet : UInt8) : Except DecodeError Nat :=
  match bitsOf? octet with
  | some bits => .ok bits
  | none => .error (.symbol offset octet)

def readSymbols (offset : Nat) : List UInt8 → Except DecodeError (List Nat)
  | [] => .ok []
  | octet :: rest => do
      let bits ← readSymbol offset octet
      return bits :: (← readSymbols (offset + 1) rest)

def joinFour (first second third fourth : Nat) : List UInt8 :=
  [.ofNat (first * 4 + second / 16), .ofNat (second % 16 * 16 + third / 4),
    .ofNat (third % 4 * 64 + fourth)]

def readGroups (offset : Nat) : List UInt8 → Except DecodeError (List UInt8)
  | first :: second :: third :: fourth :: rest => do
      let one ← readSymbol offset first
      let two ← readSymbol (offset + 1) second
      let three ← readSymbol (offset + 2) third
      let four ← readSymbol (offset + 3) fourth
      return joinFour one two three four ++ (← readGroups (offset + 4) rest)
  | _ => .ok []

/-- Joins the symbols of the last group; bits that make no octet must be zero. -/
def joinLast (offset : Nat) (symbols : List UInt8) : List Nat → Except DecodeError (List UInt8)
  | [first, second, third, fourth] => .ok (joinFour first second third fourth)
  | [first, second, third] =>
      if third % 4 = 0 then
        .ok [.ofNat (first * 4 + second / 16), .ofNat (second % 16 * 16 + third / 4)]
      else .error (.lastSymbol (offset + 2) (symbols.getLastD 0))
  | [first, second] =>
      if second % 16 = 0 then .ok [.ofNat (first * 4 + second / 16)]
      else .error (.lastSymbol (offset + 1) (symbols.getLastD 0))
  | bits => .error (.length (offset + bits.length))

/-- Reads the last group: up to four symbols, of which the last ones may be
padding behind at least two others. -/
def readLast (offset : Nat) (octets : List UInt8) : Except DecodeError (List UInt8) := do
  let symbols := octets.takeWhile (· != padding)
  let filling := octets.dropWhile (· != padding)
  let bits ← readSymbols offset symbols
  if !filling.isEmpty && (symbols.length < 2 || filling.any (· != padding)) then
    throw (.symbol (offset + symbols.length) padding)
  joinLast offset symbols bits

/-- How many octets stand in groups before the last one. -/
def groupedLength (count : Nat) : Nat :=
  if count % 4 = 0 then count - 4 else count - count % 4

/-- Reads a written form.  A lone last octet that is neither a symbol nor padding
is reported before anything else. -/
def decode (octets : List UInt8) : Except DecodeError (List UInt8) :=
  if octets.isEmpty then .ok []
  else do
    let last := octets.getLastD 0
    if octets.length % 4 = 1 && last != padding then
      discard (readSymbol (octets.length - 1) last)
    let grouped := groupedLength octets.length
    let head ← readGroups 0 (octets.take grouped)
    let tail ← readLast grouped (octets.drop grouped)
    return head ++ tail

/-- The written form of octets as text, without padding. -/
def text (octets : List UInt8) : String :=
  String.ofList ((encode octets).map fun octet => Char.ofNat octet.toNat)

/-- The written form of octets as text, with padding. -/
def paddedText (octets : List UInt8) : String :=
  String.ofList ((encodePadded octets).map fun octet => Char.ofNat octet.toNat)

/-- The symbol of the standard alphabet, which has the plus sign and the slash for
the last two. -/
def standardSymbol (octet : UInt8) : UInt8 :=
  if octet = 0x2D then 0x2B else if octet = 0x5F then 0x2F else octet

/-- The written form of octets as text in the standard alphabet, with padding. -/
def standardText (octets : List UInt8) : String :=
  String.ofList ((encodePadded octets).map fun octet =>
    Char.ofNat (standardSymbol octet).toNat)

end EditorLaunch.Base64
