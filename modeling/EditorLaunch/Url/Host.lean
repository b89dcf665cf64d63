import EditorLaunch.Address.Ip
import EditorLaunch.Text.Percent
import EditorLaunch.Url.DomainName

/-!
# Hosts of addresses

The host of an address is a numeric address or a name.  Names of the common
schemes are host names in ASCII, and a name whose last label is a number is a
short numeric address, whose numbers may be octal or hexadecimal and fewer than
four.  Other schemes take any name without certain marks.
-/

namespace EditorLaunch

/-- Why a text is no address. -/
inductive UrlError where
  | emptyHost
  | badDomain
  | badPort
  | badIpV4
  | badIpV6
  | badDomainCharacter
  | relative
deriving DecidableEq, Repr

def UrlError.message : UrlError → String
  | emptyHost => "empty host"
  | badDomain => "invalid international domain name"
  | badPort => "invalid port number"
  | badIpV4 => "invalid IPv4 address"
  | badIpV6 => "invalid IPv6 address"
  | badDomainCharacter => "invalid domain character"
  | relative => "relative URL without a base"

/-- A host: a name as it is written, or a numeric address. -/
inductive Host where
  | name (letters : List Char)
  | short (address : IpV4)
  | long (address : IpV6)
deriving DecidableEq, Repr

namespace Host

def letters : Host → List Char
  | name found => found
  | short address => address.text.toList
  | long address => '[' :: address.text.toList ++ [']']

def isEmpty (host : Host) : Bool :=
  host == .name []

/-- The digits of a number and their base. -/
def radix (part : List Char) : List Char × Nat :=
  match part with
  | '0' :: 'x' :: rest => (rest, 16)
  | '0' :: 'X' :: rest => (rest, 16)
  | '0' :: second :: rest => (second :: rest, 8)
  | _ => (part, 10)

/-- Reads one number of a short address. -/
def number? (part : List Char) : Option Nat := do
  if part.isEmpty then none
  else
    let (digits, base) := radix part
    let values ← digits.mapM Hex.value?
    if values.all (· < base) then
      return values.foldl (fun value digit => value * base + digit) 0
    else none

/-- The last label of a name, before a point at its end. -/
def lastLabel (labels : List (List Char)) : List Char :=
  match labels.reverse with
  | [] :: label :: _ => label
  | label :: _ => label
  | [] => []

/-- Whether a name has to be a short address: its last label is a number. -/
def endsInNumber (domain : List Char) : Bool :=
  let label := lastLabel (domain.splitOn '.')
  (!label.isEmpty && label.all Char.isDigit) || (number? label).isSome

/-- Reads a short address.  The last number fills the octets that are left. -/
def readShort (domain : List Char) : Except UrlError Host :=
  let labels := domain.splitOn '.'
  let parts := if labels.getLast? = some [] then labels.dropLast else labels
  match (parts.mapM number?).map List.reverse with
  | some (last :: others) =>
      let space := Nat.pow 256 (4 - others.length)
      if 3 < others.length ∨ others.any (255 < ·) ∨ space ≤ last then .error .badIpV4
      else
        let high := others.reverse.foldl (fun value octet => value * 256 + octet) 0
        .ok (.short (.ofNumber (high * space + last)))
  | _ => .error .badIpV4

def readBracketed (letters : List Char) : Except UrlError Host :=
  if letters.getLast? = some ']' then
    match IpV6.ofLetters? letters.dropLast with
    | some address => .ok (.long address)
    | none => .error .badIpV6
  else .error .badIpV6

def readCommon (letters : List Char) : Except UrlError Host :=
  match letters with
  | '[' :: rest => readBracketed rest
  | _ =>
      match (Utf8.toText? (Percent.decode (Utf8.encode letters))).bind
          (DomainName.toAscii? ·.toList) with
      | none => .error .badDomain
      | some [] => .error .emptyHost
      | some domain => if endsInNumber domain then readShort domain else .ok (.name domain)

/-- Characters that no host may hold. -/
def isForbidden (character : Char) : Bool :=
  "\x00\t\n\r #/:<>?@[\\]^|".toList.contains character

def readOther (letters : List Char) : Except UrlError Host :=
  match letters with
  | '[' :: rest => readBracketed rest
  | _ =>
      if letters.any isForbidden then .error .badDomainCharacter
      else .ok (.name (Percent.encode Percent.isControl letters))

end Host

end EditorLaunch
