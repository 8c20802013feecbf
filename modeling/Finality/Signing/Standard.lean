import Finality.Curve.Edwards25519
import Finality.Curve.Secp256k1
import Finality.Signing

/-!
# A signature library

One signature library, which the program is run with. It takes all 32 bytes for an Ed25519 key and
tells only from the signature whether they are a point of the curve; a secp256k1 key is read at
once.
-/

namespace Finality

/-- A signature library as the program finds it. -/
@[reducible] def Signing.standard : Signing where
  isKey
    | .ed25519, _ => true
    | .secp256k1, key => (Curve.Secp256k1.read? key).isSome
  edwards := Curve.Edwards25519.verify
  koblitz key message r s :=
    match Curve.Secp256k1.read? key with
    | some point => Curve.Secp256k1.verify point message r s
    | none => false

end Finality
