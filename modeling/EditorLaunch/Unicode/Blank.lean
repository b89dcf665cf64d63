/-!
# Blanks

Blanks are the characters with the standard's property of white space: the
ASCII ones, the next-line control, and the spaces and separators beyond ASCII.
Trimming removes them from both ends of a text.
-/

namespace EditorLaunch

/-- Whether a character counts as white space. -/
def isBlank (character : Char) : Bool :=
  let code := character.toNat
  (9 ≤ code && code ≤ 13) || code == 0x20 || code == 0x85 || code == 0xA0 ||
    code == 0x1680 || (0x2000 ≤ code && code ≤ 0x200A) || code == 0x2028 ||
    code == 0x2029 || code == 0x202F || code == 0x205F || code == 0x3000

/-- Characters without those of a kind at the end. -/
def trimEndWhile (test : Char → Bool) (characters : List Char) : List Char :=
  (characters.reverse.dropWhile test).reverse

/-- Characters without blanks at either end. -/
def trimBlanks (characters : List Char) : List Char :=
  trimEndWhile isBlank (characters.dropWhile isBlank)

/-- A text without blanks at either end. -/
def trimmed (text : String) : String :=
  String.ofList (trimBlanks text.toList)

/-- Whether a text holds nothing but blanks. -/
def isBlankText (text : String) : Bool :=
  text.toList.all isBlank

end EditorLaunch
