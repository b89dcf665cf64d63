import EditorLaunch.Settings.Value
import EditorLaunch.Text.Escaped
import EditorLaunch.Unicode.Blank

/-!
# Values of environment variables

The value of a variable is read as a truth value, a number, a list in brackets, a
table in braces, a text in quotes or a single character.  What is none of these,
or goes on behind its end, is a text as it stands.  Each reader takes the
characters that are left and answers what it read with the characters behind it.
-/

namespace EditorLaunch.Environment

open Escaped

def isSpace (character : Char) : Bool :=
  character == ' ' || character == '\t' || character == '\n' || character == '\r' ||
    character == '\x0c'

def skipSpaces (characters : List Char) : List Char :=
  characters.dropWhile isSpace

def isDelimiter (character : Char) : Bool :=
  character == ',' || character == '\x7b' || character == '\x7d' ||
    character == '[' || character == ']'

/-- Splits off a sign; a minus sign makes negative. -/
def splitSign : List Char → Bool × List Char
  | '-' :: rest => (true, rest)
  | '+' :: rest => (false, rest)
  | letters => (false, letters)

def digitsValue (digits : List Char) : Nat :=
  digits.foldl (fun value digit => value * 10 + (digit.toNat - '0'.toNat)) 0

/-- The digits of a number of at least one digit. -/
def digits? (letters : List Char) : Option Nat :=
  if letters.isEmpty || !letters.all Char.isDigit then none else some (digitsValue letters)

/-- Reads a whole number of 64 bits, with or without a sign. -/
def integer? (letters : List Char) : Option Int := do
  let (negative, unsigned) := splitSign letters
  let size ← digits? unsigned
  if negative then if size ≤ 0x8000000000000000 then some (-Int.ofNat size) else none
  else if size < 0x10000000000000000 then some (Int.ofNat size) else none

/-- Reads an exponent with its mark. -/
def exponent? : List Char → Option Int
  | [] => some 0
  | mark :: letters => do
      let (negative, unsigned) := splitSign letters
      let size ← digits? unsigned
      if mark = 'e' ∨ mark = 'E' then some (if negative then -Int.ofNat size else Int.ofNat size)
      else none

/-- Reads a number with a point, before or behind which digits may be missing,
but not both. -/
def decimal? (letters : List Char) : Option Float := do
  let (negative, unsigned) := splitSign letters
  let (whole, pointed) := unsigned.span Char.isDigit
  match pointed with
  | '.' :: behind =>
      let (fraction, last) := behind.span Char.isDigit
      if whole.isEmpty && fraction.isEmpty then none
      else do
        let power ← exponent? last
        return (Decimal.mk negative (digitsValue (whole ++ fraction))
          (power - Int.ofNat fraction.length)).toFloat
  | _ => none

/-- What a word is: a number, or else a text. -/
def word (letters : List Char) : RawSetting :=
  let kept := trimBlanks letters
  match decimal? kept, integer? kept with
  | some value, _ => .float value
  | none, some value => .integer value
  | none, none => .text (String.ofList kept)

def key (characters : List Char) : Option (String × List Char) :=
  let found := match skipSpaces characters with
    | '"' :: rest => quoted rest
    | others =>
        match others.span isBare with
        | ([], _) => none
        | (letters, rest) => some (letters, rest)
  match found with
  | some (letters, rest) =>
      match skipSpaces rest with
      | '=' :: behind => some (String.ofList letters, behind)
      | _ => none
  | none => none

mutual

/-- Reads a value and the white space around it.  `fuel` bounds its depth. -/
def value : (fuel : Nat) → List Char → Option (RawSetting × List Char)
  | 0, _ => none
  | fuel + 1, characters => do
      let (found, rest) ← match skipSpaces characters with
        | 't' :: 'r' :: 'u' :: 'e' :: rest => some (RawSetting.flag true, rest)
        | 'f' :: 'a' :: 'l' :: 's' :: 'e' :: rest => some (.flag false, rest)
        | '\x7b' :: rest => (pairs fuel rest).map fun (found, behind) => (.table found, behind)
        | '[' :: rest => (items fuel rest).map fun (found, behind) => (.list found, behind)
        | '"' :: rest =>
            (quoted rest).map fun (letters, behind) => (.text (String.ofList letters), behind)
        | '\'' :: letter :: '\'' :: rest => some (.letter letter, rest)
        | '\'' :: _ => none
        | others =>
            let (letters, rest) := others.span (!isDelimiter ·)
            some (word letters, rest)
      return (found, skipSpaces rest)

/-- Reads the items of a list up to its end. -/
def items : (fuel : Nat) → List Char → Option (List RawSetting × List Char)
  | 0, _ => none
  | _, ']' :: rest => some ([], rest)
  | fuel + 1, characters => do
      let (item, rest) ← value fuel characters
      match rest with
      | ',' :: behind =>
          let (others, last) ← items fuel behind
          return (item :: others, last)
      | ']' :: behind => return ([item], behind)
      | _ => none

/-- Reads the pairs of a table up to its end. -/
def pairs : (fuel : Nat) → List Char → Option (List (String × RawSetting) × List Char)
  | 0, _ => none
  | _, '\x7d' :: rest => some ([], rest)
  | fuel + 1, characters => do
      let (name, afterSign) ← key characters
      let (found, rest) ← value fuel afterSign
      match rest with
      | ',' :: behind =>
          let (others, last) ← pairs fuel behind
          return ((name, found) :: others, last)
      | '\x7d' :: behind => return ([(name, found)], behind)
      | _ => none

end

mutual

/-- The value with each name of a table standing once, its last value with it. -/
def distinct : RawSetting → RawSetting
  | .table members => .table (distinctMembers [] members)
  | .list items => .list (distinctItems items)
  | .nothing => .nothing
  | .flag value => .flag value
  | .integer value => .integer value
  | .float value => .float value
  | .letter value => .letter value
  | .text value => .text value

/-- The members with each name standing once, behind those that are there. -/
def distinctMembers (found : List (String × RawSetting)) :
    List (String × RawSetting) → List (String × RawSetting)
  | [] => found
  | (name, value) :: rest =>
      distinctMembers (RawSetting.put name (distinct value) found) rest

/-- The items with the names of their tables standing once. -/
def distinctItems : List RawSetting → List RawSetting
  | [] => []
  | item :: rest => distinct item :: distinctItems rest

end

/-- What the value of a variable is. -/
def read (content : String) : RawSetting :=
  let characters := content.toList
  match value (2 * characters.length + 2) characters with
  | some (found, []) => distinct found
  | _ => .text content

end EditorLaunch.Environment
