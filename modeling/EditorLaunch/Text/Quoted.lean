import EditorLaunch.Unicode.Printable

/-!
# Quoted text

Messages quote foreign text so that it can be read on one line.  The quote sign
and the backslash stand behind a backslash, common controls have a letter, and
any other character that cannot be seen is written as its code point.
-/

namespace EditorLaunch.Quoted

def escapedCode (character : Char) : List Char :=
  "\\u\x7b".toList ++ Nat.toDigits 16 character.toNat ++ "\x7d".toList

def character (current : Char) : List Char :=
  if current = '"' then "\\\"".toList
  else if current = '\\' then "\\\\".toList
  else if current = '\n' then "\\n".toList
  else if current = '\r' then "\\r".toList
  else if current = '\t' then "\\t".toList
  else if current = '\x00' then "\\0".toList
  else if isShownInQuotes current then [current]
  else escapedCode current

def text (content : String) : String :=
  String.ofList ('"' :: content.toList.flatMap character ++ ['"'])

end EditorLaunch.Quoted
