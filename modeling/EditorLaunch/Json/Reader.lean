import EditorLaunch.Json.Basic
import EditorLaunch.Text.Hex
import EditorLaunch.Text.Utf8

/-!
# Reading JSON

The reader follows the grammar to the letter: four blanks between tokens, no
comments, no superfluous zeros or commas, no control characters in strings.
Each function takes the characters that are left and answers what it read with
the characters behind it.  `fuel` bounds the depth and length of what is read;
`Json.read?` starts with enough for the whole text.
-/

namespace EditorLaunch.Json.Reader

def isGap (character : Char) : Bool :=
  character == ' ' || character == '\n' || character == '\t' || character == '\r'

def skipGap (characters : List Char) : List Char :=
  characters.dropWhile isGap

def simpleEscape? (letter : Char) : Option Char :=
  match letter with
  | '"' => some '"'
  | '\\' => some '\\'
  | '/' => some '/'
  | 'b' => some '\x08'
  | 'f' => some '\x0c'
  | 'n' => some '\n'
  | 'r' => some '\r'
  | 't' => some '\t'
  | _ => none

/-- Reads a string behind its opening quote as code points and code units. -/
def stringCodes : List Char → Option (List Nat × List Char)
  | '"' :: rest => some ([], rest)
  | '\\' :: 'u' :: first :: second :: third :: fourth :: rest => do
      let unit ← Hex.number? [first, second, third, fourth]
      let (codes, behind) ← stringCodes rest
      return (unit :: codes, behind)
  | '\\' :: letter :: rest => do
      let character ← simpleEscape? letter
      let (codes, behind) ← stringCodes rest
      return (character.toNat :: codes, behind)
  | character :: rest =>
      if character.toNat < 0x20 ∨ character = '\\' then none
      else do
        let (codes, behind) ← stringCodes rest
        return (character.toNat :: codes, behind)
  | [] => none

/-- Joins pairs of surrogates.  There is no text if a half stands alone. -/
def joinSurrogates : List Nat → Option (List Char)
  | [] => some []
  | code :: rest =>
      if 0xD800 ≤ code ∧ code ≤ 0xDBFF then
        match rest with
        | low :: others =>
            if 0xDC00 ≤ low ∧ low ≤ 0xDFFF then do
              let characters ← joinSurrogates others
              return Char.ofNat (0x10000 + (code - 0xD800) * 0x400 + (low - 0xDC00)) ::
                characters
            else none
        | [] => none
      else if 0xDC00 ≤ code ∧ code ≤ 0xDFFF then none
      else do
        let characters ← joinSurrogates rest
        return Char.ofNat code :: characters

def string (characters : List Char) : Option (Option String × List Char) := do
  let (codes, rest) ← stringCodes characters
  return ((joinSurrogates codes).map String.ofList, rest)

def digitsValue (digits : List Char) : Nat :=
  digits.foldl (fun value digit => value * 10 + (digit.toNat - '0'.toNat)) 0

def digits (characters : List Char) : List Char × List Char :=
  characters.span Char.isDigit

/-- The digits before the point: a zero alone, or digits without a zero in front. -/
def wholePart : List Char → Option (List Char × List Char)
  | '0' :: rest =>
      match rest with
      | [] => some (['0'], [])
      | next :: _ => if next.isDigit then none else some (['0'], rest)
  | characters =>
      match digits characters with
      | ([], _) => none
      | (found, rest) => some (found, rest)

/-- The digits behind the point, if there is one. -/
def fraction : List Char → Option (Option (List Char) × List Char)
  | '.' :: rest =>
      match digits rest with
      | ([], _) => none
      | (found, behind) => some (some found, behind)
  | characters => some (none, characters)

/-- The digits of an exponent with its sign. -/
def exponentDigits (negative : Bool) (characters : List Char) :
    Option (Option Int × List Char) :=
  match digits characters with
  | ([], _) => none
  | (found, behind) =>
      let value := Int.ofNat (digitsValue found)
      some (some (if negative then -value else value), behind)

/-- The exponent, if there is one. -/
def exponent : List Char → Option (Option Int × List Char)
  | mark :: rest =>
      if mark = 'e' ∨ mark = 'E' then
        match rest with
        | '+' :: behind => exponentDigits false behind
        | '-' :: behind => exponentDigits true behind
        | behind => exponentDigits false behind
      else some (none, mark :: rest)
  | [] => some (none, [])

/-- A number without point and exponent is whole if it fits and is no minus zero;
any other number is decimal. -/
def numberValue (negative : Bool) (whole : List Char) (fractional : Option (List Char))
    (power : Option Int) : Json :=
  let size := digitsValue whole
  let signed : Int := if negative then -Int.ofNat size else Int.ofNat size
  match fractional, power with
  | none, none =>
      if isWhole signed && !(negative && size == 0) then .integer signed
      else .decimal ⟨negative, size, 0⟩
  | _, _ =>
      let behind := fractional.getD []
      .decimal ⟨negative, digitsValue (whole ++ behind),
        power.getD 0 - Int.ofNat behind.length⟩

def number (characters : List Char) : Option (Json × List Char) := do
  let negative := characters.head? == some '-'
  let (whole, afterWhole) ← wholePart (if negative then characters.drop 1 else characters)
  let (fractional, afterFraction) ← fraction afterWhole
  let (power, rest) ← exponent afterFraction
  return (numberValue negative whole fractional power, rest)

mutual

/-- Reads a value whose first character comes next. -/
def value : (fuel : Nat) → List Char → Option (Json × List Char)
  | 0, _ => none
  | fuel + 1, characters =>
      match characters with
      | 'n' :: 'u' :: 'l' :: 'l' :: rest => some (.null, rest)
      | 't' :: 'r' :: 'u' :: 'e' :: rest => some (.boolean true, rest)
      | 'f' :: 'a' :: 'l' :: 's' :: 'e' :: rest => some (.boolean false, rest)
      | '"' :: rest => do
          let (text?, behind) ← string rest
          return (.string text?, behind)
      | '[' :: rest =>
          match skipGap rest with
          | ']' :: behind => some (.array [], behind)
          | items => do
              let (found, behind) ← elements fuel items
              return (.array found, behind)
      | '\x7b' :: rest =>
          match skipGap rest with
          | '\x7d' :: behind => some (.object [], behind)
          | items => do
              let (found, behind) ← members fuel items
              return (.object found, behind)
      | _ => number characters

/-- Reads the items of an array up to its end. -/
def elements : (fuel : Nat) → List Char → Option (List Json × List Char)
  | 0, _ => none
  | fuel + 1, characters => do
      let (item, rest) ← value fuel (skipGap characters)
      match skipGap rest with
      | ',' :: behind => do
          let (items, last) ← elements fuel behind
          return (item :: items, last)
      | ']' :: behind => some ([item], behind)
      | _ => none

/-- Reads the members of an object up to its end. -/
def members : (fuel : Nat) → List Char → Option (List (Option String × Json) × List Char)
  | 0, _ => none
  | fuel + 1, characters =>
      match skipGap characters with
      | '"' :: afterQuote => do
          let (name?, afterName) ← string afterQuote
          match skipGap afterName with
          | ':' :: afterColon => do
              let (item, rest) ← value fuel (skipGap afterColon)
              match skipGap rest with
              | ',' :: behind => do
                  let (items, last) ← members fuel behind
                  return ((name?, item) :: items, last)
              | '\x7d' :: behind => some ([(name?, item)], behind)
              | _ => none
          | _ => none
      | _ => none

end

end Reader

/-- Reads a text that holds one value and nothing else but blanks. -/
def read? (text : String) : Option Json :=
  let characters := text.toList
  match Reader.value (characters.length + 1) (Reader.skipGap characters) with
  | some (found, rest) => if (Reader.skipGap rest).isEmpty then some found else none
  | none => none

/-- What damaged octets are read as.  Like them it is nothing between tokens and no
escape behind a backslash, and in a string two halves of pairs leave no text. -/
def damage : List Char := "~\\udc00\\udc00".toList

/-- Reads octets that hold one value and nothing else but blanks.  A damaged string
matters only to those who ask for its text. -/
def readOctets? (octets : List UInt8) : Option Json :=
  read? (String.ofList (Utf8.decodeMarking damage octets))

end EditorLaunch.Json
