import EditorLaunch.Unicode.Bidi
import EditorLaunch.Unicode.DomainMapping
import EditorLaunch.Unicode.Joining
import EditorLaunch.Unicode.Normalization
import EditorLaunch.Url.Punycode

/-!
# Host names in ASCII

A host name may be given in any script.  Its characters are mapped to their
lower-case and composed forms and it is divided into labels; labels that are
given in their written form are read back.  Each label then has to follow the
rules for joiners, marks and writing direction, and those that are not ASCII are
written in it.
-/

namespace EditorLaunch.DomainName

/-- ASCII characters that no host name may hold. -/
def isForbidden (character : Char) : Bool :=
  character.toNat ≤ 0x20 || character.toNat == 0x7F ||
    "#%/:<>?@[\\]^|".toList.contains character

/-- What stands before the written form of a label. -/
def mark : List Char := "xn--".toList

def isAscii (label : List Char) : Bool :=
  label.all (·.toNat < 0x80)

/-- Whether a label that was read back is one that would be written. -/
def isCanonical (label : List Char) : Bool :=
  !isAscii label && label.all (fun character => DomainMapping.isKept character) &&
    Normalization.composedForm label == label && !label.contains '.'

/-- Reads back a label that is given in its written form. -/
def readLabel? (label : List Char) : Option (List Char) :=
  if !mark.isPrefixOf label then some label
  else if !isAscii label then none
  else (Punycode.decode? (label.drop mark.length)).filter isCanonical

/-- Whether a label may be part of a host name, its direction aside. -/
def isAllowed (label : List Char) : Bool :=
  label.all (!isForbidden ·) &&
    (isAscii label ||
      (!(label.head?.any Joining.combiningMarks.contains) && Joining.joinersFit [] label))

/-- Whether a label has characters that are written from right to left. -/
def hasDirection (label : List Char) : Bool :=
  label.any fun character => (BidiClass.ofChar character).isRightToLeft

def writeLabel? (label : List Char) : Option (List Char) :=
  if isAscii label then some label else (Punycode.encode? label).map (mark ++ ·)

/-- A host name in ASCII, if it is one.  Blanks and controls stay what they are, so that a
name with one of them is refused at once. -/
def toAscii? (name : List Char) : Option (List Char) := do
  if name.any (·.toNat ≤ 0x20) then none
  else
    let mapped ← DomainMapping.text? name
    let labels ← (mapped.splitOn '.').mapM readLabel?
    if labels.all isAllowed &&
        (!labels.any hasDirection || labels.all BidiClass.labelKeepsRule) then
      return List.intercalate ['.'] (← labels.mapM writeLabel?)
    else none

end EditorLaunch.DomainName
