/-!
# JSON values

A value as a text spells it: members keep their order and may repeat a name.
Whole numbers are those of 64 bits, signed or unsigned; every other number is
kept as its decimal digits.  A string may name half of a pair of surrogates by
an escape and then has no text, which matters only to those who ask for it.
-/

namespace EditorLaunch

/-- A number in decimal digits: the coefficient times a power of ten. -/
structure Decimal where
  negative : Bool
  coefficient : Nat
  exponent : Int
deriving DecidableEq, Repr

def Decimal.toFloat (number : Decimal) : Float :=
  let magnitude := match number.exponent with
    | .ofNat power => Float.ofScientific number.coefficient false power
    | .negSucc power => Float.ofScientific number.coefficient true (power + 1)
  if number.negative then -magnitude else magnitude

/-- A JSON value. -/
inductive Json where
  | null
  | boolean (value : Bool)
  | integer (value : Int)
  | decimal (value : Decimal)
  | string (text? : Option String)
  | array (items : List Json)
  | object (members : List (Option String × Json))
deriving Repr, Inhabited

namespace Json

/-- A string with a text. -/
def text (content : String) : Json :=
  .string (some content)

def natural (value : Nat) : Json :=
  .integer (Int.ofNat value)

def record (members : List (String × Json)) : Json :=
  .object (members.map fun (name, value) => (some name, value))

/-- Whether a whole number is kept as one: it fits 64 bits, signed or not. -/
def isWhole (value : Int) : Bool :=
  -(0x8000000000000000 : Int) ≤ value && value < (0x10000000000000000 : Int)

def asText? : Json → Option String
  | .string text? => text?
  | _ => none

def asBoolean? : Json → Option Bool
  | .boolean value => some value
  | _ => none

/-- The natural number; whole numbers of this kind end before 2 to the 64. -/
def asNatural? : Json → Option Nat
  | .integer value => if 0 ≤ value then some value.toNat else none
  | _ => none

/-- The value of the one member of a name.  Nothing is found when the name is
absent, and it is an error if the name stands twice. -/
def uniqueMember? (name : String) (members : List (String × Json)) :
    Option (Option Json) :=
  match members.filter (·.1 == name) with
  | [] => some none
  | [(_, value)] => some (some value)
  | _ => none

/-- The members of an object, provided every name has a text. -/
def namedMembers? (members : List (Option String × Json)) : Option (List (String × Json)) :=
  members.mapM fun (name?, value) => name?.map (·, value)

/-- Reads a record with known fields, given as an object or as an array in the
order of the fields.  Unknown members are passed over, a known one must not
stand twice, and an array must not be longer than the record. -/
def fields? (names : List String) : Json → Option (List (Option Json))
  | .object members => do
      let named ← namedMembers? members
      names.mapM (uniqueMember? · named)
  | .array items =>
      if items.length ≤ names.length then
        some (items.map some ++ List.replicate (names.length - items.length) none)
      else none
  | _ => none

/-- Reads one of several named alternatives without contents: its name, or an
object with null under that name. -/
def alternative? : Json → Option String
  | .string text? => text?
  | .object [(name?, .null)] => name?
  | _ => none

end Json

end EditorLaunch
