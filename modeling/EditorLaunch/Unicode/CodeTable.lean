/-!
# Tables over code points

Properties of characters come as tables of code points.  A table is written as
words of hexadecimal numbers with blanks or line breaks between them, sorted by
their first number:

* `9-D` stands for the code points from 9 to D, and `20` for one code point;
* `100-12E/2:101` sends every second code point of the range to a code point,
  the first one to 101 and each later one as far behind it;
* `A8:20+308` sends a code point to a sequence, and a step of zero, as in
  `132-133/0:69+6A`, sends the whole range to the same sequence.

Look-ups search the sorted entries by halving.
-/

namespace EditorLaunch

/-- A run of code points and what the table says about them. -/
structure CodeEntry where
  first : Nat
  last : Nat
  step : Nat
  image : List Nat
deriving Repr, Inhabited

namespace CodeEntry

/-- The value of a hexadecimal digit; anything else counts as zero. -/
def hexValue (digit : Char) : Nat :=
  if '0' ≤ digit ∧ digit ≤ '9' then digit.toNat - '0'.toNat
  else if 'A' ≤ digit ∧ digit ≤ 'F' then digit.toNat - 'A'.toNat + 10
  else 0

/-- The number written by hexadecimal digits. -/
def hexNumber (digits : List Char) : Nat :=
  digits.foldl (fun value digit => value * 16 + hexValue digit) 0

/-- Reads one word of a table. -/
def ofWord (word : List Char) : CodeEntry :=
  let (range, image) := word.span (· != ':')
  let (span, step) := range.span (· != '/')
  let (first, last) := span.span (· != '-')
  { first := hexNumber first
    last := if last.isEmpty then hexNumber first else hexNumber (last.drop 1)
    step := if step.isEmpty then 1 else hexNumber (step.drop 1)
    image := ((image.drop 1).splitOn '+').map hexNumber }

/-- Whether the entry speaks of this code point. -/
def covers (entry : CodeEntry) (code : Nat) : Bool :=
  entry.first ≤ code && code ≤ entry.last &&
    (entry.step == 0 || (code - entry.first) % entry.step == 0)

/-- What the entry sends a covered code point to. -/
def apply (entry : CodeEntry) (code : Nat) : List Nat :=
  match entry.step, entry.image with
  | 0, image => image
  | _, [target] => [target + (code - entry.first)]
  | _, image => image

end CodeEntry

/-- A sorted table of code points. -/
structure CodeTable where
  entries : Array CodeEntry

namespace CodeTable

/-- What stands between the words of a table. -/
def isGap (character : Char) : Bool :=
  character == ' ' || character == '\n'

/-- Reads a table from its written form. -/
def ofText (text : String) : CodeTable :=
  ⟨((text.toList.splitOnP isGap).filter (!·.isEmpty)).toArray.map CodeEntry.ofWord⟩

/-- The number of entries before `high` that start no later than `code`, given
that this holds of all before `low`. -/
def rank (entries : Array CodeEntry) (code low high : Nat) : Nat :=
  if low < high then
    let middle := (low + high) / 2
    match entries[middle]? with
    | some entry =>
        if entry.first ≤ code then rank entries code (middle + 1) high
        else rank entries code low middle
    | none => low
  else low
termination_by high - low

/-- The entry that covers a code point. -/
def find? (table : CodeTable) (code : Nat) : Option CodeEntry :=
  match rank table.entries code 0 table.entries.size with
  | 0 => none
  | position + 1 =>
      (table.entries[position]?).filter (·.covers code)

/-- Whether the table covers a character. -/
def contains (table : CodeTable) (character : Char) : Bool :=
  (table.find? character.toNat).isSome

/-- What the table sends a character to. -/
def image? (table : CodeTable) (character : Char) : Option (List Char) :=
  (table.find? character.toNat).map fun entry =>
    (entry.apply character.toNat).map Char.ofNat

end CodeTable

end EditorLaunch
