import Finality.Proofs.Wire.Cbor.RoundTrip
import Finality.Wire.Compact

/-!
# Lengths in field maps

Names of fields are short, and so are hashes, keys, signatures and numbers. What may be too
long for the tagged form is the same as for the compact one: texts, byte strings and
sequences (`Fielded.fits_fields_iff`).
-/

namespace Finality

namespace Cbor

/-- Numbers of up to sixteen bytes are written with a short length, if with any. -/
theorem fits_nat {value : Nat} (small : value < capacity 16) : fits (.nat value) = true := by
  have exponent : value.log2 < 128 := by
    by_cases zero : value = 0
    · subst zero
      decide
    · rw [Nat.log2_lt zero]
      rwa [capacity_eq_pow] at small
  have unsigned : magnitude (value : Int) = value := by
    have same := magnitude_of_nonneg (Int.natCast_nonneg value)
    omega
  have short : (naturalBytes value).length ≤ 16 := by
    rw [naturalBytes, length_beBytes]
    omega
  rw [Datum.nat, fits, unsigned, decide_eq_true_eq]
  exact Nat.lt_of_le_of_lt short (by decide)

theorem fits_text_iff {text : String} :
    fits (.text text) = true ↔ (utf8 text).length < capacity 8 := by
  rw [fits, decide_eq_true_eq]

theorem fits_bytes_iff {data : Bytes} : fits (.bytes data) = true ↔ data.length < capacity 8 := by
  rw [fits, decide_eq_true_eq]

theorem fits_list_iff {α : Type} {write : α → Datum} {values : List α} :
    fits (.list (values.map write)) = true ↔
      values.length < capacity 8 ∧ ∀ value ∈ values, fits (write value) = true := by
  rw [fits, Bool.and_eq_true, decide_eq_true_eq, List.length_map, fitsItems_iff,
    List.forall_mem_map]

/-- The fields of a record are few, and they have short names. -/
def shortNames (parts : List (String × Datum)) : Bool :=
  parts.length < capacity 8 && parts.all fun part => (utf8 part.1).length < capacity 8

theorem fits_record_iff {parts : List (String × Datum)} (short : shortNames parts = true) :
    fits (.record parts) = true ↔ ∀ part ∈ parts, fits part.2 = true := by
  rw [shortNames, Bool.and_eq_true, decide_eq_true_eq, List.all_eq_true] at short
  rw [Datum.record, fits, Bool.and_eq_true, decide_eq_true_eq, List.length_map, fitsEntries_iff,
    List.forall_mem_map]
  constructor
  · intro given part member
    exact (given.2 part member).2
  · intro given
    refine ⟨short.1, ?_⟩
    intro part member
    exact ⟨fits_text_iff.2 (of_decide_eq_true (short.2 part member)), given part member⟩

end Cbor

namespace Fielded

open Cbor

/-! ## Parts of a known size -/

theorem fits_ofWord (word : UInt64) : fits (ofWord word) = true :=
  fits_nat (Nat.lt_trans word.toNat_lt (by decide))

theorem fits_ofHash (hash : Hash) : fits (ofHash hash) = true := by
  rw [ofHash, fits_bytes_iff, hash.size_eq]
  decide

theorem fits_ofOption_iff {α : Type} {write : α → Datum} {value : Option α} :
    fits (ofOption write value) = true ↔ ∀ content ∈ value, fits (write content) = true := by
  cases value with
  | none => exact ⟨fun _ => nofun, fun _ => rfl⟩
  | some content => exact ⟨fun given _ member => by cases member; exact given, fun all => all _ rfl⟩

theorem fits_ofHeight (height : Height) : fits (ofHeight height) = true := by
  refine (fits_record_iff rfl).2 ?_
  simp only [List.forall_mem_cons]
  exact ⟨fits_ofWord _, fits_ofWord _, nofun⟩

theorem fits_scheme (scheme : Scheme) : fits (.nat scheme.tag) = true := by
  cases scheme <;> decide

theorem fits_ofPublicKey (key : PublicKey) : fits (ofPublicKey key) = true := by
  refine (fits_record_iff rfl).2 ?_
  simp only [List.forall_mem_cons, fits_bytes_iff, key.size_eq]
  refine ⟨fits_scheme _, ?_, nofun⟩
  cases key.scheme <;> decide

theorem fits_ofSignature (signature : Signature) : fits (ofSignature signature) = true := by
  refine (fits_record_iff rfl).2 ?_
  simp only [List.forall_mem_cons, fits_bytes_iff, signature.size_eq]
  refine ⟨fits_scheme _, ?_, nofun⟩
  cases signature.scheme <;> decide

theorem fits_ofClientState (state : ClientState) : fits (ofClientState state) = true := by
  refine (fits_record_iff rfl).2 ?_
  simp only [List.forall_mem_cons]
  exact ⟨fits_ofHeight _, fits_ofWord _, fits_ofWord _, fits_ofWord _,
    fits_ofOption_iff.2 fun height _ => fits_ofHeight height, nofun⟩

theorem fits_ofConsensusState (state : ConsensusState) : fits (ofConsensusState state) = true := by
  refine (fits_record_iff rfl).2 ?_
  simp only [List.forall_mem_cons]
  exact ⟨fits_ofWord _, fits_ofHash _, fits_ofHash _, fits_ofHash _, fits_ofHash _,
    fits_ofHash _, nofun⟩

theorem fits_ofInnerHeader (inner : InnerHeader) : fits (ofInnerHeader inner) = true := by
  refine (fits_record_iff rfl).2 ?_
  simp only [List.forall_mem_cons]
  exact ⟨fits_ofWord _, fits_ofHash _, fits_ofHash _, fits_ofHash _, fits_ofHash _,
    fits_ofWord _, fits_ofHash _, fits_ofHash _, nofun⟩

theorem fits_ofProofStep (step : ProofStep) : fits (ofProofStep step) = true := by
  refine (fits_record_iff rfl).2 ?_
  simp only [List.forall_mem_cons]
  refine ⟨fits_ofHash _, ?_, nofun⟩
  cases step.side <;> decide

/-! ## Parts of any size -/

theorem fits_ofValidator_iff {validator : Validator} :
    fits (ofValidator validator) = true ↔ (utf8 validator.account).length < capacity 8 := by
  refine (fits_record_iff rfl).trans ?_
  simp only [List.forall_mem_cons, fits_text_iff]
  exact ⟨And.left, fun short =>
    ⟨short, fits_ofPublicKey _, fits_nat validator.stake.units_lt, nofun⟩⟩

theorem fits_ofValidators_iff {validators : List Validator} :
    fits (ofValidators validators) = true ↔
      ∀ length ∈ validatorLengths validators, length < capacity 8 := by
  rw [ofValidators, fits_list_iff, validatorLengths, List.forall_mem_cons, List.forall_mem_map]
  exact and_congr_right fun _ => forall₂_congr fun _ _ => fits_ofValidator_iff

theorem fits_ofRoster_iff {roster : Roster} :
    fits (ofRoster roster) = true ↔
      ∀ length ∈ validatorLengths roster.validators, length < capacity 8 := by
  refine (fits_record_iff rfl).trans ?_
  rw [List.forall_mem_singleton, fits_ofValidators_iff]

theorem fits_ofHeader_iff {header : Header} :
    fits (ofHeader header) = true ↔ ∀ length ∈ header.lengths, length < capacity 8 := by
  have rosterFits : fits (ofOption ofValidators header.validators) = true ↔
      ∀ length ∈ header.validators.toList.flatMap validatorLengths, length < capacity 8 := by
    rw [fits_ofOption_iff, List.forall_mem_flatMap]
    simp only [Option.mem_toList, Option.mem_def, fits_ofValidators_iff]
  have approvalsFit : fits (.list (header.approvals.map (ofOption ofSignature))) = true ↔
      header.approvals.length < capacity 8 := by
    rw [fits_list_iff]
    exact ⟨And.left, fun short => ⟨short, fun approval _ =>
      fits_ofOption_iff.2 fun signature _ => fits_ofSignature signature⟩⟩
  rw [Header.lengths, List.forall_mem_append, List.forall_mem_singleton, ← rosterFits,
    ← approvalsFit]
  refine (fits_record_iff rfl).trans ?_
  simp only [List.forall_mem_cons]
  constructor
  · rintro ⟨-, -, -, -, validators, approvals, -⟩
    exact ⟨validators, approvals⟩
  · rintro ⟨validators, approvals⟩
    exact ⟨fits_ofHash _, fits_ofHash _, fits_ofInnerHeader _, fits_ofHash _, validators,
      approvals, nofun⟩

theorem fits_ofMisbehaviour_iff {misbehaviour : Misbehaviour} :
    fits (ofMisbehaviour misbehaviour) = true ↔
      ∀ length ∈ Compact.lengths .misbehaviour misbehaviour, length < capacity 8 := by
  rw [Compact.lengths, List.forall_mem_cons, List.forall_mem_append, ← fits_text_iff,
    ← fits_ofHeader_iff, ← fits_ofHeader_iff]
  refine (fits_record_iff rfl).trans ?_
  simp only [List.forall_mem_cons]
  constructor
  · rintro ⟨client, -, first, second, -⟩
    exact ⟨client, first, second⟩
  · rintro ⟨client, first, second⟩
    exact ⟨client, fits_ofHeight _, first, second, nofun⟩

theorem fits_ofProof_iff {proof : Proof} :
    fits (ofProof proof) = true ↔
      ∀ length ∈ Compact.lengths .proof proof, length < capacity 8 := by
  have stepsFit : fits (.list (proof.steps.map ofProofStep)) = true ↔
      proof.steps.length < capacity 8 := by
    rw [fits_list_iff]
    exact ⟨And.left, fun short => ⟨short, fun step _ => fits_ofProofStep step⟩⟩
  rw [Compact.lengths, List.forall_mem_cons, List.forall_mem_singleton, ← fits_bytes_iff,
    ← stepsFit]
  refine (fits_record_iff rfl).trans ?_
  simp only [List.forall_mem_cons]
  exact ⟨fun given => ⟨given.1, given.2.1⟩, fun given => ⟨given.1, given.2, nofun⟩⟩

/-- The field map of a value fits if all its lengths fit eight bytes. -/
theorem fits_fields_iff (value : Value) :
    fits value.fields = true ↔
      ∀ length ∈ Compact.lengths value.kind value.content, length < capacity 8 := by
  rcases value with ⟨kind, content⟩
  cases kind with
  | height => exact ⟨fun _ => nofun, fun _ => fits_ofHeight content⟩
  | clientState => exact ⟨fun _ => nofun, fun _ => fits_ofClientState content⟩
  | consensusState => exact ⟨fun _ => nofun, fun _ => fits_ofConsensusState content⟩
  | header => exact fits_ofHeader_iff
  | misbehaviour => exact fits_ofMisbehaviour_iff
  | proof => exact fits_ofProof_iff
  | innerHeader => exact ⟨fun _ => nofun, fun _ => fits_ofInnerHeader content⟩
  | proofStep => exact ⟨fun _ => nofun, fun _ => fits_ofProofStep content⟩
  | publicKey => exact ⟨fun _ => nofun, fun _ => fits_ofPublicKey content⟩
  | signature => exact ⟨fun _ => nofun, fun _ => fits_ofSignature content⟩
  | validator =>
      rw [Compact.lengths, List.forall_mem_singleton]
      exact fits_ofValidator_iff
  | roster => exact fits_ofRoster_iff

end Fielded

end Finality
