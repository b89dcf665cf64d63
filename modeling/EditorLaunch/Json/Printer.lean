import EditorLaunch.Json.Basic
import EditorLaunch.Text.Hex

/-!
# Writing JSON

Values are written without blanks, members in their order.  Strings show every
character as it is except the quote sign, the backslash and controls; common
controls have a letter, the others four hexadecimal digits.
-/

namespace EditorLaunch.Json.Printer

def character (current : Char) : List Char :=
  if current = '"' then ['\\', '"']
  else if current = '\\' then ['\\', '\\']
  else if current = '\x08' then ['\\', 'b']
  else if current = '\x0c' then ['\\', 'f']
  else if current = '\n' then ['\\', 'n']
  else if current = '\r' then ['\\', 'r']
  else if current = '\t' then ['\\', 't']
  else if current.toNat < 0x20 then
    ['\\', 'u', '0', '0', Hex.digit (current.toNat / 16), Hex.digit (current.toNat % 16)]
  else [current]

/-- A string with its quotes. -/
def string (text : String) : List Char :=
  '"' :: text.toList.flatMap character ++ ['"']

def natural (value : Nat) : List Char :=
  Nat.toDigits 10 value

def integer (value : Int) : List Char :=
  match value with
  | .ofNat size => natural size
  | .negSucc size => '-' :: natural (size + 1)

def decimal (value : Decimal) : List Char :=
  (if value.negative then ['-'] else []) ++ natural value.coefficient ++
    'e' :: integer value.exponent

mutual

def value : Json → List Char
  | .null => "null".toList
  | .boolean true => "true".toList
  | .boolean false => "false".toList
  | .integer number => integer number
  | .decimal number => decimal number
  | .string text? => string (text?.getD "")
  | .array items => '[' :: elements items ++ [']']
  | .object items => '\x7b' :: members items ++ ['\x7d']

/-- Items with commas between them. -/
def elements : List Json → List Char
  | [] => []
  | [item] => value item
  | item :: rest => value item ++ ',' :: elements rest

/-- Members with commas between them. -/
def members : List (Option String × Json) → List Char
  | [] => []
  | [(name?, item)] => string (name?.getD "") ++ ':' :: value item
  | (name?, item) :: rest =>
      string (name?.getD "") ++ ':' :: value item ++ ',' :: members rest

end

end Printer

def print (item : Json) : String :=
  String.ofList (Printer.value item)

end EditorLaunch.Json
