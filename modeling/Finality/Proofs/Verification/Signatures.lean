import Finality.Proofs.Verification.Conditions
import Finality.Proofs.Verification.Counting

/-!
# What is asked of the signature library

Whatever the library answers, a signature of another scheme than its key is turned down, and so
is a secp256k1 signature whose last byte is above three. `Signature.check_eq_ok_iff` and
`Signature.check_eq_error_iff` say which signatures pass a library, and which fault the others
have. So every approval of an accepted header stands under its validator's key
(`approvals_stand`), and a signature that makes a count fail has the fault that is reported
(`Roster.failsAt_iff`).
-/

namespace Finality

/-- Only a signature of one scheme has a recovery byte to be asked about. -/
theorem Signature.recoverable_iff {signature : Signature} {key : PublicKey} :
    (key.scheme = .secp256k1 → recoveryByte signature.data ≤ maxRecoveryByte) ↔
      ¬(key.scheme = .secp256k1 ∧ maxRecoveryByte < recoveryByte signature.data) := by
  rw [not_and]
  exact imp_congr_right fun _ => UInt8.not_lt.symm

variable [Signing]

/-- What the library answers about the bytes of a signature. -/
def Signing.accepts (scheme : Scheme) (key message signature : Bytes) : Bool :=
  match scheme with
  | .ed25519 => edwards key message signature
  | .secp256k1 =>
    koblitz key message (beValue (signature.take 32)) (beValue ((signature.drop 32).take 32))

/-- A signature stands for a message under a key. -/
structure Signature.Stands (signature : Signature) (message : Bytes) (key : PublicKey) : Prop where
  sameScheme : signature.scheme = key.scheme
  isKey : Signing.isKey key.scheme key.data = true
  recoverable : key.scheme = .secp256k1 → recoveryByte signature.data ≤ maxRecoveryByte
  accepted : Signing.accepts key.scheme key.data message signature.data = true

/-- The first thing that is wrong with a signature. -/
inductive SignatureFault.IsOf (signature : Signature) (message : Bytes) (key : PublicKey) :
    SignatureFault → Prop where
  | otherScheme (other : signature.scheme ≠ key.scheme) :
      IsOf signature message key (.otherScheme signature.scheme key.scheme)
  | malformedKey (sameScheme : signature.scheme = key.scheme)
      (noKey : Signing.isKey key.scheme key.data = false) :
      IsOf signature message key (.malformedKey key.scheme)
  | recoveryByte (sameScheme : signature.scheme = key.scheme)
      (isKey : Signing.isKey key.scheme key.data = true) (koblitz : key.scheme = .secp256k1)
      (beyond : maxRecoveryByte < Finality.recoveryByte signature.data) :
      IsOf signature message key (.recoveryByte (Finality.recoveryByte signature.data))
  | mismatch (sameScheme : signature.scheme = key.scheme)
      (isKey : Signing.isKey key.scheme key.data = true)
      (recoverable : key.scheme = .secp256k1 →
        Finality.recoveryByte signature.data ≤ maxRecoveryByte)
      (refused : Signing.accepts key.scheme key.data message signature.data = false) :
      IsOf signature message key (.mismatch key.scheme)

namespace Signature

variable {signature : Signature} {message : Bytes} {key : PublicKey} {fault : SignatureFault}

/-- Both schemes go through the same checks, but only one has a recovery byte. -/
theorem check_of_sameScheme (same : signature.scheme = key.scheme) :
    signature.check message key =
      if !Signing.isKey key.scheme key.data then .error (.malformedKey key.scheme)
      else if key.scheme = .secp256k1 ∧ maxRecoveryByte < recoveryByte signature.data then
        .error (.recoveryByte (recoveryByte signature.data))
      else if Signing.accepts key.scheme key.data message signature.data then .ok ()
      else .error (.mismatch key.scheme) := by
  rw [check, if_neg (not_not.2 same)]
  cases key.scheme with
  | ed25519 =>
      simp only [checkEdwards, Signing.accepts, reduceCtorEq, false_and, ↓reduceIte]
      rfl
  | secp256k1 =>
      simp only [checkKoblitz, Signing.accepts, true_and]
      rfl

theorem Stands.check_eq (stands : signature.Stands message key) :
    signature.check message key = .ok () := by
  rw [check_of_sameScheme stands.sameScheme, stands.isKey,
    if_neg (recoverable_iff.1 stands.recoverable), stands.accepted]
  rfl

theorem check_of_isOf (isFault : fault.IsOf signature message key) :
    signature.check message key = .error fault := by
  cases isFault with
  | otherScheme other => rw [check, if_pos other]
  | malformedKey same noKey =>
      rw [check_of_sameScheme same, noKey]
      rfl
  | recoveryByte same isKey koblitz beyond =>
      rw [check_of_sameScheme same, isKey, Bool.not_true, if_neg Bool.false_ne_true,
        if_pos ⟨koblitz, beyond⟩]
  | mismatch same isKey recoverable refused =>
      rw [check_of_sameScheme same, isKey, if_neg (recoverable_iff.1 recoverable), refused]
      rfl

theorem stands_or_isOf (signature : Signature) (message : Bytes) (key : PublicKey) :
    signature.Stands message key ∨ ∃ fault : SignatureFault, fault.IsOf signature message key := by
  by_cases same : signature.scheme = key.scheme
  · cases isKey : Signing.isKey key.scheme key.data with
    | false => exact Or.inr ⟨_, .malformedKey same isKey⟩
    | true =>
        by_cases beyond : key.scheme = .secp256k1 ∧ maxRecoveryByte < recoveryByte signature.data
        · exact Or.inr ⟨_, .recoveryByte same isKey beyond.1 beyond.2⟩
        · have recoverable := recoverable_iff.2 beyond
          cases accepted : Signing.accepts key.scheme key.data message signature.data with
          | false => exact Or.inr ⟨_, .mismatch same isKey recoverable accepted⟩
          | true => exact Or.inl ⟨same, isKey, recoverable, accepted⟩
  · exact Or.inr ⟨_, .otherScheme same⟩

/-- Exactly the signatures that stand for a message pass its check. -/
theorem check_eq_ok_iff : signature.check message key = .ok () ↔ signature.Stands message key := by
  constructor
  · intro passed
    rcases signature.stands_or_isOf message key with stands | ⟨fault, isFault⟩
    · exact stands
    · rw [check_of_isOf isFault] at passed
      cases passed
  · exact Stands.check_eq

/-- The check of a signature fails with its first fault. -/
theorem check_eq_error_iff :
    signature.check message key = .error fault ↔ fault.IsOf signature message key := by
  constructor
  · intro failed
    rcases signature.stands_or_isOf message key with stands | ⟨other, isFault⟩
    · rw [stands.check_eq] at failed
      cases failed
    · rw [check_of_isOf isFault] at failed
      cases failed
      exact isFault
  · exact check_of_isOf

end Signature

/-! ## Approvals -/

namespace Roster

variable {roster : Roster} {approvals : List (Option Signature)} {message : Bytes}
  {position : roster.Position}

theorem verifiesAt_iff :
    roster.VerifiesAt approvals message position ↔
      ∀ signature, approvalAt? approvals position = some signature →
        signature.Stands message (roster.validatorAt position).key := by
  simp only [VerifiesAt, Signature.check_eq_ok_iff]

theorem failsAt_iff {fault : SignatureFault} :
    roster.FailsAt approvals message position fault ↔
      ∃ signature, approvalAt? approvals position = some signature ∧
        fault.IsOf signature message (roster.validatorAt position).key := by
  simp only [FailsAt, Signature.check_eq_error_iff]

end Roster

/-- Every approval of an accepted header stands for its message, under the key of the validator
in the roster that must have signed it. -/
theorem approvals_stand {config : Config} {trusted : Snapshot} {header : Header}
    {verified : VerifiedHeader} (passed : verifyHeader config trusted header = .ok verified) :
    ∃ selection, header.ActiveRoster config.limits.maxValidators trusted selection ∧
      ∀ (position : selection.roster.Position) (signature : Signature),
        approvalAt? header.approvals position = some signature →
          signature.Stands header.signedString (selection.roster.validatorAt position).key := by
  rcases verifyHeader_eq_ok_iff_final.1 passed with ⟨selection, final, -⟩
  refine ⟨selection, final.active, ?_⟩
  intro position signature present
  exact Signature.check_eq_ok_iff.1 (final.approved position signature present)

end Finality
