import BearerAuth.Signature.Sha2

/-!
# HMAC

Keyed digests. No policy can allow them, since whoever can verify such a signature can also make
one; they are here because a token may name them.
-/

namespace BearerAuth.Signature

/-- The key as one block: digested when it is too long, then filled with zeros. -/
def Sha2.keyBlock (v : Sha2) (key : List UInt8) : List UInt8 :=
  let short := if key.length > v.blockSize then v.digest key else key
  short ++ List.replicate (v.blockSize - short.length) 0

def Sha2.hmac (v : Sha2) (key message : List UInt8) : List UInt8 :=
  let block := v.keyBlock key
  let inner := v.digest (block.map (· ^^^ 0x36) ++ message)
  v.digest (block.map (· ^^^ 0x5C) ++ inner)

end BearerAuth.Signature
