import EditorLaunch.Digest.Sha256

/-!
# Keyed digests

A message is authenticated by a key shared with its reader.  The key is brought
to the length of a block, by its digest if it is longer and by zeros at the end;
two masks of it stand before the message and before the inner digest.
-/

namespace EditorLaunch.Hmac

def blockLength : Nat := 64

def blockKey (key : List UInt8) : List UInt8 :=
  let short := if key.length ≤ blockLength then key else Sha256.digest key
  short ++ List.replicate (blockLength - short.length) 0

/-- The key under a mask. -/
def masked (mask : UInt8) (key : List UInt8) : List UInt8 :=
  (blockKey key).map (· ^^^ mask)

/-- The code that authenticates a message. -/
def code (key message : List UInt8) : List UInt8 :=
  Sha256.digest (masked 0x5C key ++ Sha256.digest (masked 0x36 key ++ message))

end EditorLaunch.Hmac
