import EditorLaunch.Text.Hex

/-!
# Writing settings files

A file is written as sections, each with its name in brackets and one line for
each setting.  An empty line divides sections.  Texts stand in double quotes,
with escapes for quotes, backslashes and controls.
-/

namespace EditorLaunch.Toml

def writtenCharacter (character : Char) : List Char :=
  if character = '"' then ['\\', '"']
  else if character = '\\' then ['\\', '\\']
  else if character = '\x08' then ['\\', 'b']
  else if character = '\t' then ['\\', 't']
  else if character = '\n' then ['\\', 'n']
  else if character = '\x0c' then ['\\', 'f']
  else if character = '\r' then ['\\', 'r']
  else if character.toNat < 0x20 ∨ character.toNat = 0x7F then
    ['\\', 'u', '0', '0', Hex.capitalDigit (character.toNat / 16),
      Hex.capitalDigit (character.toNat % 16)]
  else [character]

def writtenText (content : String) : String :=
  String.ofList ('"' :: content.toList.flatMap writtenCharacter ++ ['"'])

/-- A section: its name and its settings with their values as they are written. -/
structure Section where
  name : String
  lines : List (String × String)
deriving Repr

def Section.text (written : Section) : String :=
  "[" ++ written.name ++ "]\n" ++
    String.join (written.lines.map fun (name, value) => name ++ " = " ++ value ++ "\n")

def writtenFile (sections : List Section) : String :=
  "\n".intercalate (sections.map Section.text)

end EditorLaunch.Toml
