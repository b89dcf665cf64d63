/-!
# The 256-bit secure hash

The message is padded to whole blocks of sixteen words: a one bit, zeros, and
the length of the message in bits.  Each block is spread over sixty-four words,
which are mixed one after the other into a state of eight words.  The digest is
the last state in octets.
-/

namespace EditorLaunch.Sha256

/-- The state of the hash. -/
structure State where
  a : UInt32
  b : UInt32
  c : UInt32
  d : UInt32
  e : UInt32
  f : UInt32
  g : UInt32
  h : UInt32
deriving DecidableEq, Repr

/-- The first state: fractions of the square roots of the first primes. -/
def initial : State :=
  ⟨0x6a09e667, 0xbb67ae85, 0x3c6ef372, 0xa54ff53a,
    0x510e527f, 0x9b05688c, 0x1f83d9ab, 0x5be0cd19⟩

/-- What each round adds: fractions of the cube roots of the first primes. -/
def roundConstants : List UInt32 :=
  [0x428a2f98, 0x71374491, 0xb5c0fbcf, 0xe9b5dba5, 0x3956c25b, 0x59f111f1,
    0x923f82a4, 0xab1c5ed5, 0xd807aa98, 0x12835b01, 0x243185be, 0x550c7dc3,
    0x72be5d74, 0x80deb1fe, 0x9bdc06a7, 0xc19bf174, 0xe49b69c1, 0xefbe4786,
    0x0fc19dc6, 0x240ca1cc, 0x2de92c6f, 0x4a7484aa, 0x5cb0a9dc, 0x76f988da,
    0x983e5152, 0xa831c66d, 0xb00327c8, 0xbf597fc7, 0xc6e00bf3, 0xd5a79147,
    0x06ca6351, 0x14292967, 0x27b70a85, 0x2e1b2138, 0x4d2c6dfc, 0x53380d13,
    0x650a7354, 0x766a0abb, 0x81c2c92e, 0x92722c85, 0xa2bfe8a1, 0xa81a664b,
    0xc24b8b70, 0xc76c51a3, 0xd192e819, 0xd6990624, 0xf40e3585, 0x106aa070,
    0x19a4c116, 0x1e376c08, 0x2748774c, 0x34b0bcb5, 0x391c0cb3, 0x4ed8aa4a,
    0x5b9cca4f, 0x682e6ff3, 0x748f82ee, 0x78a5636f, 0x84c87814, 0x8cc70208,
    0x90befffa, 0xa4506ceb, 0xbef9a3f7, 0xc67178f2]

def rotateRight (word amount : UInt32) : UInt32 :=
  (word >>> amount) ||| (word <<< (32 - amount))

/-- Spreads the word fifteen places back. -/
def spreadOld (word : UInt32) : UInt32 :=
  rotateRight word 7 ^^^ rotateRight word 18 ^^^ (word >>> 3)

/-- Spreads the word two places back. -/
def spreadNew (word : UInt32) : UInt32 :=
  rotateRight word 17 ^^^ rotateRight word 19 ^^^ (word >>> 10)

/-- Adds words to a schedule, the newest first. -/
def extend : (count : Nat) → List UInt32 → List UInt32
  | 0, newest => newest
  | count + 1, newest =>
      let word := spreadNew (newest.getD 1 0) + newest.getD 6 0 +
        spreadOld (newest.getD 14 0) + newest.getD 15 0
      extend count (word :: newest)

def schedule (block : List UInt32) : List UInt32 :=
  (extend 48 block.reverse).reverse

/-- One round with its constant and its word. -/
def round (state : State) (input : UInt32 × UInt32) : State :=
  let turned := rotateRight state.e 6 ^^^ rotateRight state.e 11 ^^^ rotateRight state.e 25
  let choice := (state.e &&& state.f) ^^^ ((~~~state.e) &&& state.g)
  let first := state.h + turned + choice + input.1 + input.2
  let mixed := rotateRight state.a 2 ^^^ rotateRight state.a 13 ^^^ rotateRight state.a 22
  let majority := (state.a &&& state.b) ^^^ (state.a &&& state.c) ^^^ (state.b &&& state.c)
  ⟨first + (mixed + majority), state.a, state.b, state.c, state.d + first, state.e, state.f,
    state.g⟩

def State.add (left right : State) : State :=
  ⟨left.a + right.a, left.b + right.b, left.c + right.c, left.d + right.d, left.e + right.e,
    left.f + right.f, left.g + right.g, left.h + right.h⟩

def compress (state : State) (block : List UInt32) : State :=
  ((roundConstants.zip (schedule block)).foldl round state).add state

/-- The octets of a number, the most significant first. -/
def bigEndian : (count : Nat) → Nat → List UInt8
  | 0, _ => []
  | count + 1, value => .ofNat (value / Nat.pow 256 count) :: bigEndian count value

/-- How many zeros make a message of so many octets fill whole blocks. -/
def zeroCount (length : Nat) : Nat :=
  (119 - length % 64) % 64

/-- A message with its padding. -/
def pad (message : List UInt8) : List UInt8 :=
  message ++ 0x80 :: List.replicate (zeroCount message.length) 0 ++
    bigEndian 8 (message.length * 8)

def words : List UInt8 → List UInt32
  | first :: second :: third :: fourth :: rest =>
      .ofNat (((first.toNat * 256 + second.toNat) * 256 + third.toNat) * 256 + fourth.toNat) ::
        words rest
  | _ => []

/-- Takes so many blocks of sixteen words into the state. -/
def absorb : (blocks : Nat) → State → List UInt32 → State
  | 0, state, _ => state
  | blocks + 1, state, input => absorb blocks (compress state (input.take 16)) (input.drop 16)

def State.octets (state : State) : List UInt8 :=
  [state.a, state.b, state.c, state.d, state.e, state.f, state.g, state.h].flatMap
    fun word => bigEndian 4 word.toNat

def digest (message : List UInt8) : List UInt8 :=
  let input := words (pad message)
  (absorb (input.length / 16) initial input).octets

end EditorLaunch.Sha256
