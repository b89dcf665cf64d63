/-!
# Hexadecimal digits

Sixteen digits, the last six of which are letters.  They are read in either case.
-/

namespace EditorLaunch.Hex

/-- A digit with small letters. -/
def digit (value : Nat) : Char :=
  if value < 10 then Char.ofNat (0x30 + value) else Char.ofNat (0x61 + (value - 10))

/-- A digit with capital letters. -/
def capitalDigit (value : Nat) : Char :=
  if value < 10 then Char.ofNat (0x30 + value) else Char.ofNat (0x41 + (value - 10))

def value? (letter : Char) : Option Nat :=
  if '0' ≤ letter ∧ letter ≤ '9' then some (letter.toNat - '0'.toNat)
  else if 'a' ≤ letter ∧ letter ≤ 'f' then some (letter.toNat - 'a'.toNat + 10)
  else if 'A' ≤ letter ∧ letter ≤ 'F' then some (letter.toNat - 'A'.toNat + 10)
  else none

def number? (letters : List Char) : Option Nat := do
  let values ← letters.mapM value?
  return values.foldl (fun number value => number * 16 + value) 0

end EditorLaunch.Hex
