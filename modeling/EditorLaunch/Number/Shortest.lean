/-!
# Shortest decimal text of floating-point numbers

A floating-point number stands for an interval of reals, those that round to it.
Its shortest text is the decimal with the fewest digits in that interval, and the
nearest one if there are two.  The interval contains its ends exactly when the
coefficient of the number is even.  All comparisons are between natural numbers.
-/

namespace EditorLaunch

/-- A positive binary number: the coefficient times a power of two. -/
structure BinaryNumber where
  coefficient : Nat
  exponent : Int
deriving DecidableEq, Repr

/-- A decimal number: the digits times a power of ten. -/
structure DecimalDigits where
  digits : Nat
  power : Int
deriving DecidableEq, Repr

namespace BinaryNumber

/-- The finite number that the bits of a double stand for, without its sign. -/
def ofBits (bits : UInt64) : BinaryNumber :=
  let field : Nat := (bits.toNat / 0x10000000000000) % 0x800
  let fraction : Nat := bits.toNat % 0x10000000000000
  if field = 0 then ⟨fraction, -1074⟩
  else ⟨0x10000000000000 + fraction, Int.ofNat field - 1075⟩

/-- A number times a power of two and a power of ten. -/
def scaled (number twos tens : Nat) : Nat :=
  number * Nat.pow 2 twos * Nat.pow 10 tens

/-- Compares `left * 2 ^ binary` with `right * 10 ^ power`. -/
def compareScaled (left : Nat) (binary : Int) (right : Nat) (power : Int) : Ordering :=
  compare (scaled left binary.toNat (-power).toNat)
    (scaled right (-binary).toNat power.toNat)

/-- The greatest whole multiple of a power of ten that is not above
`left * 2 ^ binary`. -/
def floorScaled (left : Nat) (binary power : Int) : Nat :=
  scaled left binary.toNat (-power).toNat / scaled 1 (-binary).toNat power.toNat

def leadingPower (number : BinaryNumber) : Int :=
  Int.ofNat (Nat.toDigits 10 (floorScaled number.coefficient number.exponent (-400))).length
    - 401

/-- How far the interval reaches below the number, in quarters of its last bit. -/
def quartersBelow (number : BinaryNumber) : Nat :=
  if number.coefficient = 0x10000000000000 ∧ -1074 < number.exponent then 1 else 2

/-- Whether a decimal lies in the interval of the number. -/
def rounds (number : BinaryNumber) (candidate : Nat) (power : Int) : Bool :=
  let low := 4 * number.coefficient - number.quartersBelow
  let high := 4 * number.coefficient + 2
  let exponent := number.exponent - 2
  let closed := number.coefficient % 2 == 0
  let aboveLow := match compareScaled low exponent candidate power with
    | .lt => true
    | .eq => closed
    | .gt => false
  let belowHigh := match compareScaled high exponent candidate power with
    | .lt => false
    | .eq => closed
    | .gt => true
  aboveLow && belowHigh

/-- The decimal of the interval on the grid of a power of ten that is nearest to
the number, if the grid has one. -/
def onGrid? (number : BinaryNumber) (power : Int) : Option Nat :=
  let below := floorScaled number.coefficient number.exponent power
  match number.rounds below power, number.rounds (below + 1) power with
  | true, true =>
      if compareScaled (2 * number.coefficient) number.exponent (2 * below + 1) power = .gt
      then some (below + 1) else some below
  | true, false => some below
  | false, true => some (below + 1)
  | false, false => none

/-- Tries finer and finer grids; `remaining` counts the grids left. -/
def search (number : BinaryNumber) : (remaining : Nat) → (power : Int) → DecimalDigits
  | 0, power => ⟨floorScaled number.coefficient number.exponent power, power⟩
  | remaining + 1, power =>
      match number.onGrid? power with
      | some digits => ⟨digits, power⟩
      | none => search number remaining (power - 1)

/-- The shortest decimal of a number. -/
def shortest (number : BinaryNumber) : DecimalDigits :=
  if number.coefficient = 0 then ⟨0, 0⟩ else search number 17 number.leadingPower

end BinaryNumber

/-- How a floating-point number is laid out: positions are used while the first
digit stands for at least this power of ten and below 10 to the 16; all other
numbers have an exponent. -/
structure FloatLayout where
  leastPower : Int

namespace FloatLayout

/-- The layout of settings. -/
def settings : FloatLayout := ⟨-4⟩

/-- The layout of messages about JSON. -/
def messages : FloatLayout := ⟨-5⟩

def layOut (layout : FloatLayout) (number : DecimalDigits) : List Char :=
  let digits := Nat.toDigits 10 number.digits
  let trimmed := (digits.reverse.dropWhile (· == '0')).reverse
  let shown := if trimmed.isEmpty then ['0'] else trimmed
  let leading := Int.ofNat digits.length + number.power - 1
  if number.digits = 0 then ['0', '.', '0']
  else if layout.leastPower ≤ leading ∧ leading < 16 then
    if 0 ≤ leading then
      let count := leading.toNat + 1
      let padded := shown ++ List.replicate (count - shown.length) '0'
      let behind := padded.drop count
      padded.take count ++ '.' :: (if behind.isEmpty then ['0'] else behind)
    else '0' :: '.' :: List.replicate ((-leading).toNat - 1) '0' ++ shown
  else
    let exponent := 'e' :: (toString leading).toList
    match shown with
    | [] => exponent
    | [digit] => digit :: exponent
    | digit :: rest => digit :: '.' :: rest ++ exponent

def text (layout : FloatLayout) (number : Float) : String :=
  let bits := number.toBits
  let magnitude := bits.toNat % 0x8000000000000000
  let sign := if 0x8000000000000000 ≤ bits.toNat then ['-'] else []
  if 0x7FF0000000000000 < magnitude then "NaN"
  else if magnitude = 0x7FF0000000000000 then String.ofList (sign ++ ['i', 'n', 'f'])
  else
    String.ofList (sign ++ layout.layOut (BinaryNumber.ofBits bits).shortest)

end FloatLayout

end EditorLaunch
