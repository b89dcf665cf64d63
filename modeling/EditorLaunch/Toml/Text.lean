import EditorLaunch.Text.Escaped

/-!
# Texts and keys in settings files

Texts stand in double quotes with escapes, or in single quotes as they are.
Three quotes open a text of several lines, whose first line break does not count.
Keys are bare words or texts of one line, and points between them lead into
tables.  Each function takes the characters that are left and answers what it
read with the characters behind it.
-/

namespace EditorLaunch.Toml

open Escaped

def isSpace (character : Char) : Bool :=
  character == ' ' || character == '\t'

def skipSpaces (characters : List Char) : List Char :=
  characters.dropWhile isSpace

/-- Whether nothing but blanks stands before the end of the line. -/
def isLineEnd (characters : List Char) : Bool :=
  match skipSpaces characters with
  | '\n' :: _ => true
  | '\r' :: '\n' :: _ => true
  | _ => false

/-- Whether a character belongs to the gap behind a backslash at a line's end. -/
def isLineGap (character : Char) (rest : List Char) : Bool :=
  isSpace character || character == '\n' || (character == '\r' && rest.head? == some '\n')

/-- Reads a text of several lines in double quotes behind the first three.  A
backslash at the end of a line takes away the gap up to the next character, which
`inGap` says is being skipped. -/
def quotedLines : (inGap : Bool) → List Char → Option (List Char × List Char)
  | _, '"' :: '"' :: '"' :: '"' :: '"' :: rest => some (['"', '"'], rest)
  | _, '"' :: '"' :: '"' :: '"' :: rest => some (['"'], rest)
  | _, '"' :: '"' :: '"' :: rest => some ([], rest)
  | _, '\\' :: 'u' :: a :: b :: c :: d :: rest => do
      before (← code? [a, b, c, d]) (quotedLines false rest)
  | _, '\\' :: 'U' :: a :: b :: c :: d :: e :: f :: g :: h :: rest => do
      before (← code? [a, b, c, d, e, f, g, h]) (quotedLines false rest)
  | inGap, character :: rest =>
      if inGap && isLineGap character rest then quotedLines true rest
      else if character = '\\' then
        if isLineEnd rest then quotedLines true rest
        else
          match rest with
          | letter :: behind => do
              before (← letter? letter) (quotedLines false behind)
          | [] => none
      else if character = '\n' then before '\n' (quotedLines false rest)
      else if character = '\r' then
        match rest with
        | '\n' :: behind => before '\n' (quotedLines false behind)
        | _ => none
      else if isControl character then none
      else before character (quotedLines false rest)
  | _, [] => none

/-- Reads a text in single quotes behind the first one. -/
def literal : List Char → Option (List Char × List Char)
  | '\'' :: rest => some ([], rest)
  | character :: rest =>
      if isControl character then none else before character (literal rest)
  | [] => none

/-- Reads a text of several lines in single quotes behind the first three. -/
def literalLines : List Char → Option (List Char × List Char)
  | '\'' :: '\'' :: '\'' :: '\'' :: '\'' :: rest => some (['\'', '\''], rest)
  | '\'' :: '\'' :: '\'' :: '\'' :: rest => some (['\''], rest)
  | '\'' :: '\'' :: '\'' :: rest => some ([], rest)
  | '\r' :: '\n' :: rest => before '\n' (literalLines rest)
  | character :: rest =>
      if character = '\n' then before '\n' (literalLines rest)
      else if isControl character then none
      else before character (literalLines rest)
  | [] => none

/-- The characters behind a line break that comes next, if one does. -/
def skipLineBreak : List Char → List Char
  | '\n' :: rest => rest
  | '\r' :: '\n' :: rest => rest
  | characters => characters

def text (characters : List Char) : Option (String × List Char) :=
  let found := match characters with
    | '"' :: '"' :: '"' :: rest => quotedLines false (skipLineBreak rest)
    | '"' :: rest => quoted rest
    | '\'' :: '\'' :: '\'' :: rest => literalLines (skipLineBreak rest)
    | '\'' :: rest => literal rest
    | _ => none
  found.map fun (letters, rest) => (String.ofList letters, rest)

/-- Reads a key without points. -/
def simpleKey (characters : List Char) : Option (String × List Char) :=
  match characters with
  | '"' :: rest => (quoted rest).map fun (letters, behind) => (String.ofList letters, behind)
  | '\'' :: rest => (literal rest).map fun (letters, behind) => (String.ofList letters, behind)
  | _ =>
      match characters.span isBare with
      | ([], _) => none
      | (letters, rest) => some (String.ofList letters, rest)

/-- Reads keys with points between them.  `fuel` bounds their number. -/
def keys : (fuel : Nat) → List Char → Option (List String × List Char)
  | 0, _ => none
  | fuel + 1, characters => do
      let (key, rest) ← simpleKey (skipSpaces characters)
      match skipSpaces rest with
      | '.' :: behind => do
          let (others, last) ← keys fuel behind
          return (key :: others, last)
      | behind => return ([key], behind)

/-- Reads a key with points in it. -/
def key (characters : List Char) : Option (List String × List Char) :=
  keys (characters.length + 1) characters

end EditorLaunch.Toml
