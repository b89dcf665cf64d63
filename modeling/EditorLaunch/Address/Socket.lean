import EditorLaunch.Address.Ip

/-!
# Listening addresses

An address of a host with a port.  The long kind of address stands in brackets,
where it may name a zone behind a percent sign; the number zero names none.
-/

namespace EditorLaunch

/-- A numeric address of either kind. -/
inductive IpAddress where
  | short (address : IpV4)
  | long (address : IpV6)
deriving DecidableEq, Repr

def IpAddress.text : IpAddress → String
  | short address => address.text
  | long address => address.mixedText

/-- Whether an address is of the long kind. -/
def IpAddress.isLong : IpAddress → Bool
  | short _ => false
  | long _ => true

/-- An address and a port.  Only the long kind of address lies in a zone. -/
structure SocketAddress where
  host : IpAddress
  port : UInt16
  zone : UInt32 := 0
  unzoned : host.isLong = false → zone = 0 := by simp [IpAddress.isLong]
deriving DecidableEq, Repr

namespace SocketAddress

/-- The text of an address with its port; the long kind stands in brackets, with its
zone if it has one. -/
def text (address : SocketAddress) : String :=
  match address.host with
  | .short host => s!"{host.text}:{address.port.toNat}"
  | .long host =>
      if address.zone = 0 then s!"[{host.mixedText}]:{address.port.toNat}"
      else s!"[{host.mixedText}%{address.zone.toNat}]:{address.port.toNat}"

/-- Reads a decimal number below a bound; zeros may stand in front. -/
def number? (bound : Nat) (digits : List Char) : Option Nat :=
  if digits.isEmpty ∨ !digits.all Char.isDigit then none
  else
    let value := digits.foldl (fun value digit => value * 10 + (digit.toNat - 0x30)) 0
    if value < bound then some value else none

/-- Reads what stands in brackets: an address, perhaps with a zone. -/
def bracketed? (letters : List Char) : Option (IpV6 × UInt32) := do
  let (address, zone) := letters.span (· != '%')
  match zone with
  | [] => return (← IpV6.ofLetters? address, 0)
  | _ :: digits =>
      let number ← number? 0x100000000 digits
      return (← IpV6.ofLetters? address, .ofNat number)

/-- The address with a port whose host is read from letters. -/
def at? (letters : List Char) (port : UInt16) : Option SocketAddress :=
  match letters with
  | '[' :: rest =>
      if rest.getLast? = some ']' then
        (bracketed? rest.dropLast).map fun (address, zone) => { host := .long address, port, zone }
      else none
  | _ => (IpV4.ofLetters? letters).map fun address => { host := .short address, port }

/-- Reads an address with its port behind the last colon. -/
def ofText? (content : String) : Option SocketAddress := do
  let backward := content.toList.reverse
  let port ← number? 0x10000 (backward.takeWhile (· != ':')).reverse
  match backward.dropWhile (· != ':') with
  | _ :: host => at? host.reverse (.ofNat port)
  | [] => none

end SocketAddress

end EditorLaunch
