import Finality.Chain.Key

/-!
# The signature library

Keys and signatures of the two schemes are checked by a library that the host brings along.
`Signing` is what the light client asks of it. Nothing is supposed of the answers, so what is
stated with a library is true of every library.
-/

namespace Finality

/-- A library that checks signatures. -/
class Signing where
  /-- Whether a byte string is a public key of a scheme. -/
  isKey (scheme : Scheme) (key : Bytes) : Bool
  /-- Whether a message has an Ed25519 signature under a key. -/
  edwards (key message signature : Bytes) : Bool
  /-- Whether the SHA-256 digest of a message is signed by two numbers under a key, over
  secp256k1. -/
  koblitz (key message : Bytes) (r s : Nat) : Bool

end Finality
