import EditorLaunch.Settings.Value
import EditorLaunch.Toml.Text

/-!
# Numbers and dates in settings files

Numbers may have underscores between their digits.  Whole numbers have 64 bits
with a sign and may be given in four bases; a floating-point number has a
fraction, an exponent or both, or is one of the special ones.  No setting is a
date, so a date is read only to be told from a mistake.
-/

namespace EditorLaunch.Toml

/-- Characters of numbers, dates and words. -/
def isScalarLetter (character : Char) : Bool :=
  character.isAlphanum || character == '+' || character == '-' || character == '_' ||
    character == '.' || character == ':'

/-- Digits without the underscores between them. -/
def plainDigits? (isDigit : Char → Bool) : List Char → Option (List Char)
  | [] => none
  | [digit] => if isDigit digit then some [digit] else none
  | digit :: '_' :: rest =>
      if isDigit digit then (plainDigits? isDigit rest).map (digit :: ·) else none
  | digit :: rest =>
      if isDigit digit then (plainDigits? isDigit rest).map (digit :: ·) else none

def numberValue (base : Nat) (digits : List Char) : Nat :=
  digits.foldl (fun value digit => value * base + (Hex.value? digit).getD 0) 0

/-- A whole number, if it has 64 bits. -/
def wholeNumber? (value : Int) : Option RawSetting :=
  if -(0x8000000000000000 : Int) ≤ value ∧ value < (0x8000000000000000 : Int) then
    some (.integer value)
  else none

def isDigitOf (base : Nat) (digit : Char) : Bool :=
  (Hex.value? digit).any (· < base)

/-- Decimal digits, with no zero in front of others. -/
def decimalDigits? (letters : List Char) : Option (List Char) :=
  (plainDigits? Char.isDigit letters).filter fun digits =>
    digits.length == 1 || digits.head? != some '0'

/-- Splits off a sign; a minus sign makes negative. -/
def splitSign : List Char → Bool × List Char
  | '-' :: rest => (true, rest)
  | '+' :: rest => (false, rest)
  | letters => (false, letters)

/-- Reads a whole number in one of the other bases. -/
def basedNumber? (base : Nat) (letters : List Char) : Option RawSetting := do
  let digits ← plainDigits? (isDigitOf base) letters
  wholeNumber? (Int.ofNat (numberValue base digits))

def integer? (letters : List Char) : Option RawSetting :=
  match letters with
  | '0' :: 'x' :: rest => basedNumber? 16 rest
  | '0' :: 'o' :: rest => basedNumber? 8 rest
  | '0' :: 'b' :: rest => basedNumber? 2 rest
  | _ => do
      let (negative, unsigned) := splitSign letters
      let size := Int.ofNat (numberValue 10 (← decimalDigits? unsigned))
      wholeNumber? (if negative then -size else size)

def exponent? (letters : List Char) : Option Int := do
  let (negative, unsigned) := splitSign letters
  let size := Int.ofNat (numberValue 10 (← plainDigits? Char.isDigit unsigned))
  return if negative then -size else size

def isExponentMark (character : Char) : Bool :=
  character == 'e' || character == 'E'

def decimal? (letters : List Char) : Option RawSetting := do
  let (negative, unsigned) := splitSign letters
  let (mantissa, exponentPart) := unsigned.span (!isExponentMark ·)
  let (whole, fractionPart) := mantissa.span (· != '.')
  if exponentPart.isEmpty && fractionPart.isEmpty then none
  else
    let wholeDigits ← decimalDigits? whole
    let fraction ← match fractionPart with
      | [] => some []
      | _ :: digits => plainDigits? Char.isDigit digits
    let power ← match exponentPart with
      | [] => some 0
      | _ :: digits => exponent? digits
    let value := (Decimal.mk negative (numberValue 10 (wholeDigits ++ fraction))
      (power - Int.ofNat fraction.length)).toFloat
    if value.isInf && !negative then none else some (.float value)

def special? (letters : List Char) : Option RawSetting :=
  let (negative, unsigned) := splitSign letters
  let sign := if negative then -1.0 else 1.0
  if unsigned = "inf".toList then some (.float (sign / 0.0))
  else if unsigned = "nan".toList then some (.float (0.0 / 0.0))
  else none

/-- The number of two digits, if it lies within bounds. -/
def twoDigits? (low high : Nat) (tens ones : Char) : Option Nat :=
  let value := (tens.toNat - 0x30) * 10 + (ones.toNat - 0x30)
  if tens.isDigit && ones.isDigit && low ≤ value && value ≤ high then some value else none

def daysIn (year month : Nat) : Nat :=
  if month = 2 then
    if year % 4 = 0 ∧ (year % 100 ≠ 0 ∨ year % 400 = 0) then 29 else 28
  else if month = 4 ∨ month = 6 ∨ month = 9 ∨ month = 11 then 30
  else 31

def date? : List Char → Option (List Char)
  | a :: b :: c :: d :: '-' :: e :: f :: '-' :: g :: h :: rest => do
      let century ← twoDigits? 0 99 a b
      let year ← twoDigits? 0 99 c d
      let month ← twoDigits? 1 12 e f
      let _ ← twoDigits? 1 (daysIn (century * 100 + year) month) g h
      return rest
  | _ => none

def time? : List Char → Option (List Char)
  | a :: b :: ':' :: c :: d :: ':' :: e :: f :: rest => do
      let _ ← twoDigits? 0 23 a b
      let _ ← twoDigits? 0 59 c d
      let _ ← twoDigits? 0 60 e f
      match rest with
      | '.' :: fraction =>
          if fraction.head?.any Char.isDigit then some (fraction.dropWhile Char.isDigit)
          else none
      | _ => some rest
  | _ => none

def isOffset : List Char → Bool
  | [] => true
  | ['Z'] => true
  | ['z'] => true
  | sign :: a :: b :: ':' :: c :: d :: [] =>
      (sign == '+' || sign == '-') && (twoDigits? 0 23 a b).isSome &&
        (twoDigits? 0 59 c d).isSome
  | _ => false

/-- Whether letters are a date, perhaps with a time, or a time alone. -/
def isDate (letters : List Char) : Bool :=
  match date? letters with
  | some [] => true
  | some (mark :: rest) =>
      (mark == 'T' || mark == 't' || mark == ' ') && (time? rest).any isOffset
  | none => time? letters == some []

/-- A date; its only use is to be no setting. -/
def dateSetting (letters : List Char) : RawSetting :=
  .table [("date", .text (String.ofList letters))]

/-- Reads a word: a truth value, a number or a date. -/
def scalar? (letters : List Char) : Option RawSetting :=
  if letters = "true".toList then some (.flag true)
  else if letters = "false".toList then some (.flag false)
  else if isDate letters then some (dateSetting letters)
  else (special? letters).or ((integer? letters).or (decimal? letters))

/-- Splits off a word.  A blank may divide a date from a time. -/
def splitScalar (characters : List Char) : List Char × List Char :=
  let (word, rest) := characters.span isScalarLetter
  match rest with
  | ' ' :: behind =>
      let (second, last) := behind.span isScalarLetter
      if date? word = some [] && (time? second).any isOffset then
        (word ++ ' ' :: second, last)
      else (word, rest)
  | _ => (word, rest)

end EditorLaunch.Toml
