import Finality.Proofs.Wire.Compact
import Finality.Proofs.Wire.Exact

/-!
# The compact form is a bijection

Every kind of value has an exact layout (`Layout.ofKind_exact`) as well as a faithful one. So
the values with a compact form and the byte strings that decode belong to each other one by
one: `Compact.decode_iff_encodeChecked`. What a value needs to have a compact form is that all
of `Compact.lengths` fit four bytes (`Layout.fits_iff_lengths`).
-/

namespace Finality

namespace Layout

/-! ## Parts of values -/

theorem checked_eq_ok_iff {α : Type} {result : Except Invalid α} {value : α} :
    checked result = .ok value ↔ result = .ok value := by
  cases result with
  | error reason => exact ⟨nofun, nofun⟩
  | ok other => exact ⟨fun equal => by cases equal; rfl, fun equal => by cases equal; rfl⟩

theorem scheme_exact : scheme.Exact := by
  refine via_exact (uint_exact 1) ?_
  intro tag scheme made
  cases found : Scheme.ofTag? tag with
  | none =>
      rw [found] at made
      cases made
  | some other =>
      rw [found] at made
      cases made
      exact (Scheme.ofTag?_eq_some_iff.1 found).symm

theorem side_exact : side.Exact := by
  refine via_exact (uint_exact 1) ?_
  intro tag side made
  cases found : Side.ofTag? tag with
  | none =>
      rw [found] at made
      cases made
  | some other =>
      rw [found] at made
      cases made
      exact (Side.ofTag?_eq_some_iff.1 found).symm

theorem validatorVersion_exact : validatorVersion.Exact := by
  refine via_exact (uint_exact 1) ?_
  intro version value made
  by_cases known : version = 0
  · exact known.symm
  · rw [if_neg known] at made
    cases made

theorem parts_of_ofFields {account : String} {key : PublicKey} {stake : Nat}
    {validator : Validator} (made : Validator.ofFields account key stake = .ok validator) :
    validator.account = account ∧ validator.key = key ∧ validator.stake.units = stake := by
  simp only [Validator.ofFields] at made
  split at made
  · split at made
    · cases made
      exact ⟨rfl, rfl, rfl⟩
    · cases made
  · cases made

/-! ## Kinds of values -/

theorem publicKey_exact : publicKey.Exact := by
  refine via_exact (dependent_exact scheme_exact fun _ => sized_exact _) ?_
  rintro ⟨scheme, data⟩ key made
  cases made
  rfl

theorem signature_exact : signature.Exact := by
  refine via_exact (dependent_exact scheme_exact fun _ => sized_exact _) ?_
  rintro ⟨scheme, data⟩ signature made
  cases made
  rfl

theorem height_exact : height.Exact := by
  refine via_exact (pair_exact word_exact word_exact) ?_
  rintro ⟨revision, block⟩ height made
  cases made
  rfl

theorem validator_exact : validator.Exact := by
  refine via_exact (pair_exact validatorVersion_exact (pair_exact text_exact
    (pair_exact publicKey_exact (uint_exact 16)))) ?_
  rintro ⟨version, account, key, stake⟩ validator made
  obtain ⟨rfl, rfl, rfl⟩ := parts_of_ofFields (checked_eq_ok_iff.1 made)
  rfl

theorem validators_exact : validators.Exact := list_exact validator_exact

theorem roster_exact : roster.Exact := by
  refine via_exact validators_exact ?_
  intro entries roster made
  exact Roster.ofValidators_eq_ok_iff.1 (checked_eq_ok_iff.1 made)

theorem clientState_exact : clientState.Exact := by
  refine via_exact (pair_exact height_exact (pair_exact word_exact (pair_exact word_exact
    (pair_exact word_exact (option_exact height_exact))))) ?_
  rintro ⟨latest, timestamp, period, drift, frozen⟩ state made
  have fields := checked_eq_ok_iff.1 made
  simp only [ClientState.ofFields] at fields
  split at fields
  · cases fields
    rfl
  · cases fields

theorem consensusState_exact : consensusState.Exact := by
  refine via_exact (pair_exact word_exact (pair_exact hash_exact (pair_exact hash_exact
    (pair_exact hash_exact (pair_exact hash_exact hash_exact))))) ?_
  rintro ⟨timestamp, stateRoot, epochId, nextEpochId, nextRosterHash, blockHash⟩ state made
  cases made
  rfl

theorem innerHeader_exact : innerHeader.Exact := by
  refine via_exact (pair_exact word_exact (pair_exact hash_exact (pair_exact hash_exact
    (pair_exact hash_exact (pair_exact hash_exact (pair_exact word_exact
      (pair_exact hash_exact hash_exact))))))) ?_
  rintro ⟨height, epochId, nextEpochId, stateRoot, outcomeRoot, timestamp, nextRosterHash,
    blockRoot⟩ inner made
  cases made
  rfl

theorem header_exact : header.Exact := by
  refine via_exact (pair_exact hash_exact (pair_exact hash_exact
    (pair_exact innerHeader_exact (pair_exact hash_exact (pair_exact
      (option_exact validators_exact) (list_exact (option_exact signature_exact))))))) ?_
  rintro ⟨previousHash, nextInnerHash, inner, restHash, validators, approvals⟩ header made
  cases made
  rfl

theorem misbehaviour_exact : misbehaviour.Exact := by
  refine via_exact (pair_exact text_exact (pair_exact height_exact
    (pair_exact header_exact header_exact))) ?_
  rintro ⟨clientId, trustedHeight, first, second⟩ misbehaviour made
  cases made
  rfl

theorem proofStep_exact : proofStep.Exact := by
  refine via_exact (pair_exact hash_exact side_exact) ?_
  rintro ⟨sibling, side⟩ step made
  cases made
  rfl

theorem proof_exact : proof.Exact := by
  refine via_exact (pair_exact bytes_exact (list_exact proofStep_exact)) ?_
  rintro ⟨leaf, steps⟩ proof made
  cases made
  rfl

/-- The layout of every kind is exact. -/
theorem ofKind_exact (kind : Kind) : (ofKind kind).Exact := by
  cases kind with
  | height => exact height_exact
  | clientState => exact clientState_exact
  | consensusState => exact consensusState_exact
  | header => exact header_exact
  | misbehaviour => exact misbehaviour_exact
  | proof => exact proof_exact
  | innerHeader => exact innerHeader_exact
  | proofStep => exact proofStep_exact
  | publicKey => exact publicKey_exact
  | signature => exact signature_exact
  | validator => exact validator_exact
  | roster => exact roster_exact

/-! ## What the form has room for -/

theorem side_fits (value : Side) : side.Fits value := by
  change value.tag < 256
  cases value <;> decide

theorem signature_fits (signature : Signature) : Layout.signature.Fits signature :=
  ⟨scheme_fits signature.scheme, trivial⟩

theorem proofStep_fits (step : ProofStep) : proofStep.Fits step := ⟨trivial, side_fits step.side⟩

theorem option_fits_iff {α : Type} {item : Layout α} {value : Option α} :
    (option item).Fits value ↔ ∀ content ∈ value, item.Fits content := by
  cases value with
  | none => exact ⟨fun _ => nofun, fun _ => trivial⟩
  | some content => exact ⟨fun fits other same => by cases same; exact fits, fun fits => fits _ rfl⟩

theorem validator_fits_iff {value : Validator} :
    validator.Fits value ↔ (utf8 value.account).length < capacity 4 :=
  ⟨fun fits => fits.2.1, validator_fits⟩

theorem validators_fits_iff {values : List Validator} :
    validators.Fits values ↔ ∀ length ∈ validatorLengths values, length < capacity 4 := by
  rw [validatorLengths, List.forall_mem_cons, List.forall_mem_map]
  exact and_congr_right fun _ => forall₂_congr fun _ _ => validator_fits_iff

theorem header_fits_iff {value : Header} :
    header.Fits value ↔ ∀ length ∈ value.lengths, length < capacity 4 := by
  have rosterFits : (option validators).Fits value.validators ↔
      ∀ length ∈ value.validators.toList.flatMap validatorLengths, length < capacity 4 := by
    rw [option_fits_iff, List.forall_mem_flatMap]
    simp only [Option.mem_toList, Option.mem_def, validators_fits_iff]
  rw [Header.lengths, List.forall_mem_append, List.forall_mem_singleton, ← rosterFits]
  constructor
  · rintro ⟨-, -, -, -, fits, counted, -⟩
    exact ⟨fits, counted⟩
  · rintro ⟨fits, counted⟩
    exact ⟨trivial, trivial, innerHeader_fits value.inner, trivial, fits, counted,
      fun approval _ => option_fits signature_fits approval⟩

/-- A value has a compact form if all its lengths fit four bytes. -/
theorem fits_iff_lengths (kind : Kind) (value : kind.Carrier) :
    (ofKind kind).Fits value ↔ ∀ length ∈ Compact.lengths kind value, length < capacity 4 := by
  cases kind with
  | height => exact ⟨fun _ => nofun, fun _ => height_fits value⟩
  | clientState => exact ⟨fun _ => nofun, fun _ => clientState_fits value⟩
  | consensusState => exact ⟨fun _ => nofun, fun _ => consensusState_fits value⟩
  | header => exact header_fits_iff
  | misbehaviour =>
      rw [Compact.lengths, List.forall_mem_cons, List.forall_mem_append, ← header_fits_iff,
        ← header_fits_iff]
      exact ⟨fun fits => ⟨fits.1, fits.2.2⟩, fun fits => ⟨fits.1, height_fits _, fits.2⟩⟩
  | proof =>
      rw [Compact.lengths, List.forall_mem_cons, List.forall_mem_singleton]
      exact ⟨fun fits => ⟨fits.1, fits.2.1⟩,
        fun fits => ⟨fits.1, fits.2, fun step _ => proofStep_fits step⟩⟩
  | innerHeader => exact ⟨fun _ => nofun, fun _ => innerHeader_fits value⟩
  | proofStep => exact ⟨fun _ => nofun, fun _ => proofStep_fits value⟩
  | publicKey => exact ⟨fun _ => nofun, fun _ => publicKey_fits value⟩
  | signature => exact ⟨fun _ => nofun, fun _ => signature_fits value⟩
  | validator =>
      rw [Compact.lengths, List.forall_mem_singleton]
      exact validator_fits_iff
  | roster => exact validators_fits_iff

/-- What a faithful layout writes fixes the value that was written. -/
theorem Faithful.write_injective {α : Type} {layout : Layout α} (faithful : layout.Faithful)
    {left right : α} (leftFits : layout.Fits left) (rightFits : layout.Fits right)
    (equal : layout.write left = layout.write right) : left = right := by
  have read := (faithful left leftFits).runOn
  rw [equal, (faithful right rightFits).runOn] at read
  exact (Except.ok.inj read).symm

end Layout

namespace Compact

variable {kind : Kind}

theorem encodeChecked_eq_ok_iff {value : kind.Carrier} {written : Bytes} :
    encodeChecked kind value = .ok written ↔
      (∀ length ∈ lengths kind value, length < capacity 4) ∧ encode kind value = written := by
  rw [encodeChecked]
  cases found : (lengths kind value).find? fun length => capacity 4 ≤ length with
  | some length =>
      have long : capacity 4 ≤ length := by simpa using List.find?_some found
      have member := List.mem_of_find?_eq_some found
      exact ⟨nofun, fun given => absurd (given.1 length member) (Nat.not_lt.2 long)⟩
  | none =>
      have short : ∀ length ∈ lengths kind value, length < capacity 4 := by
        intro length member
        have passed := List.find?_eq_none.1 found length member
        exact Nat.not_le.1 (by simpa using passed)
      exact ⟨fun written => ⟨short, Except.ok.inj written⟩, fun given => congrArg _ given.2⟩

/-- A byte string decodes to a value exactly if it is what the value is written as. -/
theorem decode_eq_ok_iff {input : Bytes} {value : kind.Carrier} :
    decode kind input = .ok value ↔ encodeChecked kind value = .ok input := by
  rw [encodeChecked_eq_ok_iff, ← Layout.fits_iff_lengths]
  constructor
  · intro decoded
    rw [decode] at decoded
    split at decoded
    · next read =>
      cases decoded
      exact (Layout.ofKind_exact kind).runOn read
    · cases decoded
    · cases decoded
  · rintro ⟨fits, rfl⟩
    exact decode_encode fits

/-- The compact form of a kind is a bijection. A byte string decodes to a value exactly if the
value has lengths that fit and is written as these bytes; so every such value is written and
decodes back to itself, and no two byte strings decode to one value. What is digested for a
commitment or for a block fixes the validators or the header. -/
theorem decode_iff_encodeChecked (kind : Kind) :
    (∀ input value, decode kind input = .ok value ↔
      (∀ length ∈ lengths kind value, length < capacity 4) ∧
        encodeChecked kind value = .ok input) ∧
    (∀ value, (∀ length ∈ lengths kind value, length < capacity 4) →
      ∃ written, encodeChecked kind value = .ok written ∧ decode kind written = .ok value) ∧
    (∀ left right value, decode kind left = .ok value → decode kind right = .ok value →
      left = right) ∧
    (∀ left right : List Validator, (∀ length ∈ validatorLengths left, length < capacity 4) →
      (∀ length ∈ validatorLengths right, length < capacity 4) →
      Layout.validators.write left = Layout.validators.write right → left = right) ∧
    ∀ left right : InnerHeader,
      encode .innerHeader left = encode .innerHeader right → left = right := by
  refine ⟨?_, ?_, ?_, ?_, ?_⟩
  · intro input value
    rw [decode_eq_ok_iff]
    exact ⟨fun written => ⟨(encodeChecked_eq_ok_iff.1 written).1, written⟩, And.right⟩
  · intro value short
    have written := encodeChecked_eq_ok_iff.2 ⟨short, rfl⟩
    exact ⟨_, written, decode_eq_ok_iff.2 written⟩
  · intro left right value leftDecoded rightDecoded
    have written := decode_eq_ok_iff.1 leftDecoded
    rw [decode_eq_ok_iff.1 rightDecoded] at written
    exact (Except.ok.inj written).symm
  · intro left right leftShort rightShort equal
    exact Layout.validators_faithful.write_injective (Layout.validators_fits_iff.2 leftShort)
      (Layout.validators_fits_iff.2 rightShort) equal
  · intro left right equal
    exact Layout.innerHeader_faithful.write_injective (Layout.innerHeader_fits left)
      (Layout.innerHeader_fits right) equal

/-- A proof of one step is written and decodes back. -/
theorem decode_iff_encodeChecked_sample :
    ∃ written, encodeChecked .proof ⟨[1], [⟨.zero, .left⟩]⟩ = .ok written ∧
      decode .proof written = .ok ⟨[1], [⟨.zero, .left⟩]⟩ :=
  (decode_iff_encodeChecked .proof).2.1 ⟨[1], [⟨.zero, .left⟩]⟩ (by decide)

end Compact

end Finality
