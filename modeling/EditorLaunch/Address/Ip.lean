import EditorLaunch.Text.Hex

/-!
# Addresses of hosts

The two kinds of numeric addresses and their texts.  The text of the longer kind
has groups of up to four hexadecimal digits; two colons in a row stand for zeros
that are left out, and the last two groups may be written as a short address.
Written, the longest run of at least two zero groups is left out.
-/

namespace EditorLaunch

/-- An address of four octets. -/
structure IpV4 where
  first : UInt8
  second : UInt8
  third : UInt8
  fourth : UInt8
deriving DecidableEq, Repr

namespace IpV4

/-- The octets as decimal numbers with points between them. -/
def text (address : IpV4) : String :=
  s!"{address.first.toNat}.{address.second.toNat}.{address.third.toNat}." ++
    s!"{address.fourth.toNat}"

/-- Reads the decimal number of an octet, which has no zeros in front. -/
def octet? (digits : List Char) : Option UInt8 :=
  if digits.isEmpty ∨ 3 < digits.length ∨ !digits.all Char.isDigit ∨
      (digits.head? = some '0' ∧ digits ≠ ['0']) then none
  else
    let value := digits.foldl (fun value digit => value * 10 + (digit.toNat - 0x30)) 0
    if value < 256 then some (.ofNat value) else none

def ofLetters? (letters : List Char) : Option IpV4 :=
  match letters.splitOn '.' with
  | [first, second, third, fourth] => do
      return ⟨← octet? first, ← octet? second, ← octet? third, ← octet? fourth⟩
  | _ => none

def ofNumber (number : Nat) : IpV4 :=
  ⟨.ofNat (number / 0x1000000), .ofNat (number / 0x10000), .ofNat (number / 0x100),
    .ofNat number⟩

/-- The two groups of the address within a long address. -/
def groups (address : IpV4) : List UInt16 :=
  [.ofNat (address.first.toNat * 256 + address.second.toNat),
    .ofNat (address.third.toNat * 256 + address.fourth.toNat)]

end IpV4

/-- An address of eight groups. -/
structure IpV6 where
  groups : List UInt16
  complete : groups.length = 8 := by rfl
deriving DecidableEq, Repr

namespace IpV6

def groupText (group : UInt16) : List Char :=
  Nat.toDigits 16 group.toNat

/-- A run of zero groups. -/
structure Run where
  start : Nat
  length : Nat
deriving DecidableEq, Repr

/-- The longest run of zeros among groups that begin at `index`, the first one of
several; `current` is the run that ends before them and `best` the longest so
far. -/
def longestRun (index : Nat) (current best : Run) : List UInt16 → Run
  | [] => best
  | group :: rest =>
      if group = 0 then
        let grown : Run :=
          if current.length = 0 then ⟨index, 1⟩ else ⟨current.start, current.length + 1⟩
        longestRun (index + 1) grown (if best.length < grown.length then grown else best) rest
      else longestRun (index + 1) ⟨0, 0⟩ best rest

/-- Groups with colons between them. -/
def joinGroups (groups : List UInt16) : List Char :=
  List.intercalate [':'] (groups.map groupText)

/-- The text of an address, which is written in groups throughout. -/
def text (address : IpV6) : String :=
  let run := longestRun 0 ⟨0, 0⟩ ⟨0, 0⟩ address.groups
  String.ofList <|
    if run.length < 2 then joinGroups address.groups
    else joinGroups (address.groups.take run.start) ++ ':' :: ':' ::
      joinGroups (address.groups.drop (run.start + run.length))

/-- The text of an address in which a short address that is mapped into the long
kind keeps its own form. -/
def mixedText (address : IpV6) : String :=
  match address.groups with
  | [0, 0, 0, 0, 0, 0xFFFF, high, low] =>
      "::ffff:" ++ (IpV4.ofNumber (high.toNat * 0x10000 + low.toNat)).text
  | _ => address.text

def group? (digits : List Char) : Option UInt16 := do
  if digits.isEmpty ∨ 4 < digits.length then none
  else
    return .ofNat (← Hex.number? digits)

/-- Reads groups; the last one may be a short address if `mayMix`. -/
def readGroups? (mayMix : Bool) : List (List Char) → Option (List UInt16)
  | [] => some []
  | [last] =>
      if mayMix && last.contains '.' then (IpV4.ofLetters? last).map IpV4.groups
      else (group? last).map ([·])
  | first :: rest => do
      return (← group? first) :: (← readGroups? mayMix rest)

/-- Reads groups with colons between them, or none at all. -/
def groupsOf? (mayMix : Bool) (letters : List Char) : Option (List UInt16) :=
  if letters.isEmpty then some [] else readGroups? mayMix (letters.splitOn ':')

/-- Divides a text at the first two colons in a row. -/
def divide (before : List Char) : List Char → List Char × Option (List Char)
  | ':' :: ':' :: rest => (before.reverse, some rest)
  | letter :: rest => divide (letter :: before) rest
  | [] => (before.reverse, none)

/-- The address of so many groups, if there are eight. -/
def ofGroups? (groups : List UInt16) : Option IpV6 :=
  if complete : groups.length = 8 then some ⟨groups, complete⟩ else none

def ofLetters? (letters : List Char) : Option IpV6 :=
  match divide [] letters with
  | (whole, none) => do
      let groups ← readGroups? true (whole.splitOn ':')
      ofGroups? groups
  | (head, some tail) => do
      let before ← groupsOf? false head
      let behind ← groupsOf? true tail
      if before.length + behind.length < 8 then
        ofGroups? (before ++ List.replicate (8 - before.length - behind.length) 0 ++ behind)
      else none

end IpV6

end EditorLaunch
