import EditorLaunch.Toml.Document
import EditorLaunch.Toml.Scalar

/-!
# Reading settings files

A file is a sequence of lines: headers of tables, keys with their values,
comments and empty ones.  Only lists may go on over several lines.  `fuel` bounds
the depth and length of what is read; `Toml.read?` starts with enough for the
whole file.
-/

namespace EditorLaunch.Toml

open Escaped

/-- Skips blanks, line breaks and comments. -/
def skipVoid : (inComment : Bool) → List Char → Option (List Char)
  | _, [] => some []
  | inComment, character :: rest =>
      if character = '\n' ∨ (character = '\r' ∧ rest.head? = some '\n') then
        skipVoid false rest
      else if inComment then if isControl character then none else skipVoid true rest
      else if isSpace character then skipVoid false rest
      else if character = '#' then skipVoid true rest
      else some (character :: rest)

/-- The characters behind the end of a line, if nothing but a comment stands
before it. -/
def endLine (characters : List Char) : Option (List Char) :=
  let behind := match skipSpaces characters with
    | '#' :: comment => comment.dropWhile (!isControl ·)
    | rest => rest
  match behind with
  | [] => some []
  | '\n' :: rest => some rest
  | '\r' :: '\n' :: rest => some rest
  | _ => none

mutual

def value : (fuel : Nat) → List Char → Option (RawSetting × List Char)
  | 0, _ => none
  | fuel + 1, characters =>
      match characters with
      | '"' :: _ => (text characters).map fun (content, rest) => (.text content, rest)
      | '\'' :: _ => (text characters).map fun (content, rest) => (.text content, rest)
      | '[' :: rest => do
          let (items, behind) ← items fuel rest
          return (.list items, behind)
      | '\x7b' :: rest =>
          match skipSpaces rest with
          | '\x7d' :: behind => some (.table [], behind)
          | pairs => do
              let (members, behind) ← members fuel [] pairs
              return (.table (settings members), behind)
      | _ => do
          let (word, rest) := splitScalar characters
          return (← scalar? word, rest)

/-- Reads the items of a list up to its end. -/
def items : (fuel : Nat) → List Char → Option (List RawSetting × List Char)
  | 0, _ => none
  | fuel + 1, characters => do
      match ← skipVoid false characters with
      | ']' :: rest => return ([], rest)
      | next => do
          let (item, rest) ← value fuel next
          match ← skipVoid false rest with
          | ',' :: behind => do
              let (others, last) ← items fuel behind
              return (item :: others, last)
          | ']' :: behind => return ([item], behind)
          | _ => none

/-- Reads the pairs of a table within a line, behind those that it has already. -/
def members : (fuel : Nat) → Members → List Char → Option (Members × List Char)
  | 0, _, _ => none
  | fuel + 1, found, characters => do
      let (path, afterKey) ← key characters
      match afterKey with
      | '=' :: afterSign => do
          let (setting, rest) ← value fuel (skipSpaces afterSign)
          let joined ← assign path setting .header found
          match skipSpaces rest with
          | ',' :: behind => members fuel joined behind
          | '\x7d' :: behind => return (joined, behind)
          | _ => none
      | _ => none

end

/-- Reads the lines of a file into the tables; `opened` is where the last header
leads. -/
def lines : (fuel : Nat) → (opened : List String) → Members → List Char → Option Members
  | 0, _, _, _ => none
  | fuel + 1, opened, root, characters => do
      match ← skipVoid false characters with
      | [] => return root
      | '[' :: '[' :: rest => do
          let (path, afterKey) ← key rest
          match afterKey with
          | ']' :: ']' :: behind => do
              let root ← addTable path root
              lines fuel path root (← endLine behind)
          | _ => none
      | '[' :: rest => do
          let (path, afterKey) ← key rest
          match afterKey with
          | ']' :: behind => do
              let root ← openTable path root
              lines fuel path root (← endLine behind)
          | _ => none
      | next => do
          let (path, afterKey) ← key next
          match afterKey with
          | '=' :: afterSign => do
              let (setting, rest) ← value (fuel + 1) (skipSpaces afterSign)
              let root ← assignIn opened path setting root
              lines fuel opened root (← endLine rest)
          | _ => none

/-- The mark that may stand at the start of a file. -/
def byteOrderMark : Char := Char.ofNat 0xFEFF

/-- Reads a file as a table, if it is well formed. -/
def read? (content : String) : Option RawSetting :=
  let characters := match content.toList with
    | first :: rest => if first = byteOrderMark then rest else first :: rest
    | [] => []
  (lines (characters.length + 1) [] [] characters).map fun root => .table (settings root)

end EditorLaunch.Toml
