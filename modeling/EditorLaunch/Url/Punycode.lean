/-!
# Punycode

Labels of host names are written in ASCII.  Its own characters come first, and
the others follow as numbers that tell, in the order of code points, where each
of them is to be inserted.  Digits of a number have weights that depend on the
numbers before it.
-/

namespace EditorLaunch.Punycode

def base : Nat := 36

/-- The first code point that is not written as it is. -/
def firstCode : Nat := 128

/-- The bias before the first number. -/
def firstBias : Nat := 72

/-- The bound of 32 bits for intermediate numbers. -/
def bound : Nat := 0x100000000

/-- The threshold of the digit at a position, given in multiples of the base. -/
def threshold (bias position : Nat) : Nat :=
  min 26 (max 1 (position - bias))

/-- The bias that a damped difference leads to. -/
def settle (difference position : Nat) : Nat :=
  if 455 < difference then settle (difference / 35) (position + base)
  else position + 36 * difference / (difference + 38)
termination_by difference

/-- The bias behind a number, of which so many have been written. -/
def adapt (difference count : Nat) (isFirst : Bool) : Nat :=
  let damped := if isFirst then difference / 700 else difference / 2
  settle (damped + damped / count) 0

def digitChar (value : Nat) : Char :=
  if value < 26 then Char.ofNat (0x61 + value) else Char.ofNat (0x30 + (value - 26))

def digitValue? (digit : Char) : Option Nat :=
  if '0' ≤ digit ∧ digit ≤ '9' then some (digit.toNat - '0'.toNat + 26)
  else if 'a' ≤ digit ∧ digit ≤ 'z' then some (digit.toNat - 'a'.toNat)
  else if 'A' ≤ digit ∧ digit ≤ 'Z' then some (digit.toNat - 'A'.toNat)
  else none

theorem one_le_threshold (bias position : Nat) : 1 ≤ threshold bias position := by
  unfold threshold
  omega

/-- The digits of a number from a position on. -/
def writeNumber (bias position value : Nat) : List Char :=
  if value < threshold bias position then [digitChar value]
  else
    let above := value - threshold bias position
    let weight := base - threshold bias position
    digitChar (threshold bias position + above % weight) ::
      writeNumber bias (position + base) (above / weight)
termination_by value
decreasing_by
  have := one_le_threshold bias position
  have := Nat.div_le_self (value - threshold bias position) (base - threshold bias position)
  omega

/-- How far the encoder has come. -/
structure EncoderState where
  written : List Char
  difference : Nat
  code : Nat
  bias : Nat
  handled : Nat
deriving Repr

/-- Passes one character while those of `code` are being written. -/
def pass (basicCount : Nat) (state : EncoderState) (current : Nat) : EncoderState :=
  if current < state.code then { state with difference := state.difference + 1 }
  else if current = state.code then
    { state with
      written := state.written ++ writeNumber state.bias base state.difference
      difference := 0
      bias := adapt state.difference (state.handled + 1) (state.handled == basicCount)
      handled := state.handled + 1 }
  else state

/-- Writes all characters of the next code point. -/
def writeCode (basicCount : Nat) (codes : List Nat) (state : EncoderState) (code : Nat) :
    EncoderState :=
  let start := { state with
    difference := state.difference + (code - state.code) * (state.handled + 1)
    code := code }
  let passed := codes.foldl (pass basicCount) start
  { passed with difference := passed.difference + 1, code := code + 1 }

def longestLabel : Nat := 1000

/-- Writes a label.  Labels that are too long are refused. -/
def encode? (label : List Char) : Option (List Char) :=
  if longestLabel < label.length then none
  else
    let basic := label.filter (·.toNat < firstCode)
    let codes := label.map Char.toNat
    let others := ((codes.filter (firstCode ≤ ·)).mergeSort (· ≤ ·)).eraseDups
    let start : EncoderState :=
      ⟨if basic.isEmpty then [] else basic ++ ['-'], 0, firstCode, firstBias, basic.length⟩
    some (others.foldl (writeCode basic.length codes) start).written

/-- How far the decoder has come within a number. -/
structure DecoderState where
  decoded : List Nat
  code : Nat
  bias : Nat
  place : Nat
  start : Nat
  weight : Nat
  position : Nat
deriving Repr

/-- Inserts a code point where a number that is complete says. -/
def insertCode? (state : DecoderState) (place : Nat) : Option DecoderState := do
  let count := state.decoded.length + 1
  let code := state.code + place / count
  if bound ≤ code ∨ !code.isValidChar then none
  else
    let location := place % count
    some {
      decoded := state.decoded.take location ++ code :: state.decoded.drop location
      code
      bias := adapt (place - state.start) count (state.start == 0)
      place := location + 1
      start := location + 1
      weight := 1
      position := base }

def readDigit? (state : DecoderState) (digit : Char) : Option DecoderState := do
  let value ← digitValue? digit
  let place := state.place + value * state.weight
  if bound ≤ place then none
  else
    let least := threshold state.bias state.position
    if value < least then insertCode? state place
    else
      let weight := state.weight * (base - least)
      if bound ≤ weight then none
      else some { state with place, weight, position := state.position + base }

def longestWritten : Nat := 2000

/-- Divides a written form at its last hyphen, if something stands before it. -/
def divide (written : List Char) : List Char × List Char :=
  match (written.reverse.dropWhile (· != '-')).drop 1 with
  | [] => ([], written)
  | basic => (basic.reverse, (written.reverse.takeWhile (· != '-')).reverse)

def decode? (written : List Char) : Option (List Char) := do
  let (basic, digits) := divide written
  if longestWritten < written.length ∨ basic.any (firstCode ≤ ·.toNat) then none
  else
    let start : DecoderState :=
      ⟨basic.map Char.toNat, firstCode, firstBias, 0, 0, 1, base⟩
    let last ← digits.foldlM readDigit? start
    if last.position = base then some (last.decoded.map Char.ofNat) else none

end EditorLaunch.Punycode
