/-!
# Natural numbers in floating point

A floating-point number has fifty-three significant bits.  Smaller natural
numbers are kept; a larger one goes to the nearest multiple of the last of these
bits, and to the even one of two that are equally near.
-/

namespace EditorLaunch

/-- The natural number as floating point keeps it. -/
def roundedToDouble (number : Nat) : Nat :=
  if number < 0x20000000000000 then number
  else
    let excess := number.log2 - 52
    let unit := Nat.pow 2 excess
    let whole := number / unit
    let remainder := number % unit
    if unit < 2 * remainder ∨ (unit = 2 * remainder ∧ whole % 2 = 1) then (whole + 1) * unit
    else whole * unit

/-- A power of a floating-point number by repeated squaring, times `result`. -/
def floatPower (result base : Float) (exponent : Nat) : Float :=
  let grown := if exponent % 2 = 1 then result * base else result
  if exponent / 2 = 0 then grown
  else floatPower grown (base * base) (exponent / 2)
termination_by exponent
decreasing_by omega

/-- A power of a floating-point number whose exponent has 32 bits, one of them for the
sign.  A negative exponent turns the power over. -/
def wrappedPower (base : Float) (exponent : Nat) : Float :=
  let signed := Int.bmod exponent 0x100000000
  let power := floatPower 1.0 base signed.natAbs
  if signed < 0 then 1.0 / power else power

def floatOfNat (number : Nat) : Float :=
  Float.ofScientific number false 0

end EditorLaunch
