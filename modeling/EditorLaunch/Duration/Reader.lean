import EditorLaunch.Duration.Basic
import EditorLaunch.Unicode.Blank

/-!
# Reading durations

A duration is read as a sequence of numbers with their units.  Blanks may stand
before a number, inside it and between it and its unit.  A number may have a
fraction, which has to come out exact: in nanoseconds for units up to the minute
and in seconds for the longer ones.  Every intermediate result has to fit 64
bits.  Errors name the octet where they were met.
-/

namespace EditorLaunch.Duration

/-- Why a text is no duration. -/
inductive ReadError where
  | empty
  | numberExpected (offset : Nat)
  | invalidCharacter (offset : Nat)
  | unitNeeded (value : Nat)
  | unknownUnit (unit : String)
  | overflow
deriving DecidableEq, Repr

def ReadError.message : ReadError → String
  | empty => "value was empty"
  | numberExpected offset => s!"expected number at {offset}"
  | invalidCharacter offset => s!"invalid character at {offset}"
  | unitNeeded value => s!"time unit needed, for example {value}sec or {value}ms"
  | unknownUnit unit =>
      s!"unknown time unit \"{unit}\", supported units: ns, us/µs, ms, sec, min, " ++
        "hours, days, weeks, months, years (and few variations)"
  | overflow =>
      "number is too large or cannot be represented without a lack of precision " ++
        "(values below 1ns are not supported)"

/-- A unit: how many parts of it are counted, and whether these are seconds. -/
structure TimeUnit where
  size : Nat
  inSeconds : Bool
  fractionSize : Option Nat
deriving DecidableEq, Repr

/-- The units and their names. -/
def unitNamed? (name : String) : Option TimeUnit :=
  if ["nanos", "nsec", "ns"].contains name then some ⟨1, false, none⟩
  else if ["usec", "us", "µs"].contains name then some ⟨1000, false, some 1000⟩
  else if ["millis", "msec", "ms"].contains name then some ⟨1000000, false, some 1000000⟩
  else if ["seconds", "second", "secs", "sec", "s"].contains name then
    some ⟨1, true, some 1000000000⟩
  else if ["minutes", "minute", "min", "mins", "m"].contains name then
    some ⟨60, true, some (60 * 1000000000)⟩
  else if ["hours", "hour", "hr", "hrs", "h"].contains name then
    some ⟨3600, true, some 3600⟩
  else if ["days", "day", "d"].contains name then some ⟨86400, true, some 86400⟩
  else if ["weeks", "week", "wk", "wks", "w"].contains name then
    some ⟨604800, true, some 604800⟩
  else if ["months", "month", "M"].contains name then some ⟨2630016, true, some 2630016⟩
  else if ["years", "year", "yr", "yrs", "y"].contains name then
    some ⟨31557600, true, some 31557600⟩
  else none

/-- Whether fractions of a unit are counted in seconds: those above the minute. -/
def TimeUnit.fractionInSeconds (unit : TimeUnit) : Bool :=
  unit.inSeconds && 3600 ≤ unit.size

/-- A number of 64 bits, or the overflow error. -/
def word (value : Nat) : Except ReadError Nat :=
  if value < 0x10000000000000000 then .ok value else .error .overflow

/-- The part of a number behind its point. -/
structure Fraction where
  numerator : Nat
  denominator : Nat
deriving DecidableEq, Repr

/-- Seconds and nanoseconds read so far. -/
structure Amount where
  seconds : Nat
  nanoseconds : Nat
deriving DecidableEq, Repr

/-- Adds to an amount, carrying whole seconds. -/
def Amount.add (amount : Amount) (seconds nanoseconds : Nat) : Except ReadError Amount := do
  let below ← word (amount.nanoseconds + nanoseconds)
  let carried ← word (seconds + below / perSecond)
  let total ← word (amount.seconds + carried)
  return ⟨total, below % perSecond⟩

def Amount.addUnits (amount : Amount) (value : Nat) (fraction : Option Fraction)
    (unit : TimeUnit) : Except ReadError Amount := do
  let whole ← word (value * unit.size)
  let counted ← if unit.inSeconds then amount.add whole 0 else amount.add 0 whole
  match fraction with
  | none => return counted
  | some part =>
      match unit.fractionSize with
      | none => throw .overflow
      | some size =>
          let scaled ← word (part.numerator * size)
          if scaled % part.denominator = 0 then
            let exact := scaled / part.denominator
            if unit.fractionInSeconds then counted.add exact 0 else counted.add 0 exact
          else throw .overflow

def isUnitLetter (character : Char) : Bool :=
  character.isAlpha || character == 'µ'

def digitValue (digit : Char) : Nat :=
  digit.toNat - '0'.toNat

/-- A number that was read: its value and fraction, the letter that ended it with
the offset of that letter, and what is left. -/
structure NumberRead where
  value : Nat
  fraction : Option Fraction
  start : Nat
  letter : Option Char
  rest : List Char
deriving Repr

/-- Reads the digits behind a point.  `offset` is where the next character
stands, `last` where the one before it stood. -/
def readFraction (value : Nat) (numerator denominator offset last : Nat) :
    List Char → Except ReadError NumberRead
  | [] =>
      if denominator = 1 then .error (.invalidCharacter last)
      else .ok ⟨value, some ⟨numerator, denominator⟩, offset, none, []⟩
  | character :: rest =>
      if character.isDigit then do
        let next ← word (denominator * 10)
        let sum ← word (numerator * 10 + digitValue character)
        readFraction value sum next (offset + character.utf8Size)
          (offset + character.utf8Size) rest
      else if isBlank character then
        readFraction value numerator denominator (offset + character.utf8Size)
          (offset + character.utf8Size) rest
      else if isUnitLetter character then
        if denominator = 1 then .error (.invalidCharacter last)
        else .ok ⟨value, some ⟨numerator, denominator⟩, last, some character, rest⟩
      else .error (.invalidCharacter last)

/-- Reads the rest of a number whose first digits are known. -/
def readNumber (value offset : Nat) : List Char → Except ReadError NumberRead
  | [] => .ok ⟨value, none, offset, none, []⟩
  | character :: rest =>
      if character.isDigit then do
        let next ← word (value * 10)
        let sum ← word (next + digitValue character)
        readNumber sum (offset + character.utf8Size) rest
      else if isBlank character then readNumber value (offset + character.utf8Size) rest
      else if isUnitLetter character then .ok ⟨value, none, offset, some character, rest⟩
      else if character = '.' then
        readFraction value 0 1 (offset + 1) offset rest
      else .error (.invalidCharacter offset)

/-- A unit that was read: its letters, the digit that ended it, if any, and what
is left with its offset. -/
structure UnitRead where
  letters : List Char
  digit : Option Nat
  offset : Nat
  rest : List Char
deriving Repr

/-- Reads the letters of a unit; a blank or a digit ends it. -/
def readUnit (letters : List Char) (offset : Nat) : List Char → Except ReadError UnitRead
  | [] => .ok ⟨letters.reverse, none, offset, []⟩
  | character :: rest =>
      if character.isDigit then
        .ok ⟨letters.reverse, some (digitValue character), offset + 1, rest⟩
      else if isBlank character then
        .ok ⟨letters.reverse, none, offset + character.utf8Size, rest⟩
      else if isUnitLetter character then
        readUnit (character :: letters) (offset + character.utf8Size) rest
      else .error (.invalidCharacter offset)

/-- Looks for the first digit of the next number behind blanks. -/
def readFirstDigit (offset : Nat) :
    List Char → Except ReadError (Option (Nat × Nat × List Char))
  | [] => .ok none
  | character :: rest =>
      if character.isDigit then .ok (some (digitValue character, offset + 1, rest))
      else if isBlank character then readFirstDigit (offset + character.utf8Size) rest
      else .error (.numberExpected offset)

/-- Reads a number that begins with `value`, its unit, and all that follow. -/
def readItems : (fuel : Nat) → Amount → (value offset : Nat) → List Char →
    Except ReadError Amount
  | 0, amount, _, _, _ => .ok amount
  | fuel + 1, amount, value, offset, characters => do
      let number ← readNumber value offset characters
      let after := match number.letter with
        | some letter => number.start + letter.utf8Size
        | none => number.start
      let unit ← readUnit number.letter.toList after number.rest
      let name := String.ofList unit.letters
      match unitNamed? name with
      | none => throw (if name.isEmpty then .unitNeeded number.value else .unknownUnit name)
      | some found =>
          let total ← amount.addUnits number.value number.fraction found
          match unit.digit with
          | some digit => readItems fuel total digit unit.offset unit.rest
          | none =>
              match ← readFirstDigit unit.offset unit.rest with
              | some (digit, next, rest) => readItems fuel total digit next rest
              | none => return total

/-- Reads a duration; a zero needs no unit. -/
def read (content : String) : Except ReadError Duration :=
  if content = "0" then .ok zero
  else do
    let characters := content.toList
    match ← readFirstDigit 0 characters with
    | none => throw .empty
    | some (digit, offset, rest) =>
        let amount ← readItems (characters.length + 1) ⟨0, 0⟩ digit offset rest
        return saturating (amount.seconds * perSecond + amount.nanoseconds)

end EditorLaunch.Duration
