import Finality.Bytes

/-!
# Keys and signatures

Block producers sign under one of two schemes. A key or a signature is a scheme together
with bytes of the length that the scheme fixes, so a value of the wrong length cannot be
built.
-/

namespace Finality

/-- The signature schemes of block producers. -/
inductive Scheme where
  /-- Ed25519 over the message itself. -/
  | ed25519
  /-- ECDSA over secp256k1 and the SHA-256 digest of the message. -/
  | secp256k1
deriving DecidableEq, Inhabited

namespace Scheme

/-- All schemes, in the order of their tags. -/
def all : List Scheme := [ed25519, secp256k1]

/-- The tag of a scheme in both wire forms. -/
def tag : Scheme → Nat
  | ed25519 => 0
  | secp256k1 => 1

/-- The scheme with a tag. -/
def ofTag? : Nat → Option Scheme
  | 0 => some ed25519
  | 1 => some secp256k1
  | _ => none

/-- The name of a scheme in text. -/
def name : Scheme → String
  | ed25519 => "ed25519"
  | secp256k1 => "secp256k1"

/-- The number of bytes in a public key. -/
def keySize : Scheme → Nat
  | ed25519 => 32
  | secp256k1 => 64

/-- The number of bytes in a signature. -/
def signatureSize : Scheme → Nat
  | ed25519 => 64
  | secp256k1 => 65

@[simp] theorem ofTag?_tag (scheme : Scheme) : ofTag? scheme.tag = some scheme := by
  cases scheme <;> rfl

theorem ofTag?_eq_some_iff {tag : Nat} {scheme : Scheme} :
    ofTag? tag = some scheme ↔ tag = scheme.tag := by
  constructor
  · intro h
    match tag, h with
    | 0, h => cases h; rfl
    | 1, h => cases h; rfl
  · rintro rfl; exact ofTag?_tag scheme

end Scheme

/-- A public key. -/
structure PublicKey where
  scheme : Scheme
  data : Bytes
  size_eq : data.length = scheme.keySize
deriving DecidableEq

/-- A signature. -/
structure Signature where
  scheme : Scheme
  data : Bytes
  size_eq : data.length = scheme.signatureSize
deriving DecidableEq

end Finality
