import EditorLaunch.Unicode.Blank

/-!
# Header lists

Headers keep their order, and a name may stand more than once; its case does not
matter.  Values are octets.  Where a text is asked for, a value counts only if
all of it is printable ASCII or tabs.
-/

namespace EditorLaunch.Http

/-- The name of a header and its value. -/
structure Header where
  name : String
  value : List UInt8
deriving DecidableEq, Repr

abbrev Headers : Type := List Header

/-- A name without regard to case. -/
def foldName (name : String) : List Char :=
  name.toList.map Char.toLower

def Headers.first? (headers : Headers) (name : String) : Option (List UInt8) :=
  (headers.find? fun header => foldName header.name == foldName name).map (·.value)

/-- Whether an octet is printable ASCII or a tab. -/
def isVisible (octet : UInt8) : Bool :=
  (0x20 ≤ octet && octet ≤ 0x7E) || octet == 0x09

def visibleText? (value : List UInt8) : Option String :=
  if value.all isVisible then some (String.ofList (value.map fun octet => Char.ofNat octet.toNat))
  else none

/-- The text of the first value of a name, without blanks around it, unless
nothing is left. -/
def Headers.text? (headers : Headers) (name : String) : Option String :=
  (((headers.first? name).bind visibleText?).map trimmed).filter (!·.isEmpty)

end EditorLaunch.Http
