import EditorLaunch.Text.Hex

/-!
# Texts with escapes

A text on one line stands in double quotes.  A backslash in it begins an escape:
one letter for a common control, or the code point in four or eight hexadecimal
digits.  Controls other than tabs may not stand for themselves.
-/

namespace EditorLaunch.Escaped

/-- Characters that may not stand for themselves. -/
def isControl (character : Char) : Bool :=
  (character.toNat < 0x20 && character != '\t') || character.toNat == 0x7F

def letter? (letter : Char) : Option Char :=
  match letter with
  | 'b' => some '\x08'
  | 't' => some '\t'
  | 'n' => some '\n'
  | 'f' => some '\x0c'
  | 'r' => some '\r'
  | '"' => some '"'
  | '\\' => some '\\'
  | _ => none

def code? (digits : List Char) : Option Char := do
  let code ← Hex.number? digits
  if code.isValidChar then some (Char.ofNat code) else none

/-- Puts a character in front of what is read behind it. -/
def before (character : Char) (read : Option (List Char × List Char)) :
    Option (List Char × List Char) :=
  read.map fun (text, rest) => (character :: text, rest)

def quoted : List Char → Option (List Char × List Char)
  | '"' :: rest => some ([], rest)
  | '\\' :: 'u' :: a :: b :: c :: d :: rest => do
      before (← code? [a, b, c, d]) (quoted rest)
  | '\\' :: 'U' :: a :: b :: c :: d :: e :: f :: g :: h :: rest => do
      before (← code? [a, b, c, d, e, f, g, h]) (quoted rest)
  | '\\' :: letter :: rest => do
      before (← letter? letter) (quoted rest)
  | character :: rest =>
      if isControl character ∨ character = '\\' then none else before character (quoted rest)
  | [] => none

/-- Whether a character may be part of a key without quotes. -/
def isBare (character : Char) : Bool :=
  character.isAlphanum || character == '_' || character == '-'

end EditorLaunch.Escaped
