import Finality.Proofs.Wire.Reading
import Finality.Wire.Compact

/-!
# The compact form is read back

Every kind of value has a faithful layout, so decoding gives back a value that was
encoded (`Compact.decode_encode`), and two values of a kind with one encoding are the
same (`Compact.encode_injective`). Only byte strings, texts and sequences can be too
long for the form. Rosters, states and inner headers always fit.
-/

namespace Finality

namespace Layout

/-! ## Parts of values -/

theorem scheme_faithful : scheme.Faithful := by
  refine via_faithful (uint_faithful 1) ?_
  intro scheme
  simp only [Scheme.ofTag?_tag]

theorem side_faithful : side.Faithful := by
  refine via_faithful (uint_faithful 1) ?_
  intro side
  simp only [Side.ofTag?_tag]

theorem validatorVersion_faithful : validatorVersion.Faithful :=
  via_faithful (uint_faithful 1) fun _ => rfl

theorem checked_validator (validator : Validator) :
    checked (Validator.ofFields validator.account validator.key validator.stake.units) =
      .ok validator := by
  rw [Validator.ofFields_fields]
  rfl

theorem checked_roster (roster : Roster) :
    checked (Roster.ofValidators roster.validators) = .ok roster := by
  rw [Roster.ofValidators_eq_ok_iff.2 rfl]
  rfl

theorem checked_clientState (state : ClientState) :
    checked (ClientState.ofFields state.latestHeight state.latestTimestamp
      state.trustingPeriod state.maxClockDrift state.frozenHeight) = .ok state := by
  rw [ClientState.ofFields_fields]
  rfl

/-! ## Kinds of values -/

theorem publicKey_faithful : publicKey.Faithful :=
  via_faithful (dependent_faithful scheme_faithful fun _ => sized_faithful _) fun _ => rfl

theorem signature_faithful : signature.Faithful :=
  via_faithful (dependent_faithful scheme_faithful fun _ => sized_faithful _) fun _ => rfl

theorem height_faithful : height.Faithful :=
  via_faithful (pair_faithful word_faithful word_faithful) fun _ => rfl

theorem validator_faithful : validator.Faithful :=
  via_faithful
    (pair_faithful validatorVersion_faithful
      (pair_faithful text_faithful (pair_faithful publicKey_faithful (uint_faithful 16))))
    checked_validator

theorem validator_visible : validator.Visible := by
  intro validator
  simp [Layout.validator, via, pair, validatorVersion, uint, leBytes]

theorem validators_faithful : validators.Faithful :=
  list_faithful validator_faithful validator_visible

theorem roster_faithful : roster.Faithful :=
  via_faithful validators_faithful checked_roster

theorem clientState_faithful : clientState.Faithful :=
  via_faithful
    (pair_faithful height_faithful (pair_faithful word_faithful (pair_faithful word_faithful
      (pair_faithful word_faithful (option_faithful height_faithful)))))
    checked_clientState

theorem consensusState_faithful : consensusState.Faithful :=
  via_faithful
    (pair_faithful word_faithful (pair_faithful hash_faithful (pair_faithful hash_faithful
      (pair_faithful hash_faithful (pair_faithful hash_faithful hash_faithful)))))
    fun _ => rfl

theorem innerHeader_faithful : innerHeader.Faithful :=
  via_faithful
    (pair_faithful word_faithful (pair_faithful hash_faithful (pair_faithful hash_faithful
      (pair_faithful hash_faithful (pair_faithful hash_faithful (pair_faithful word_faithful
        (pair_faithful hash_faithful hash_faithful)))))))
    fun _ => rfl

theorem approval_visible : (option signature).Visible := by
  intro approval
  cases approval <;> simp [option, leBytes]

theorem header_faithful : header.Faithful :=
  via_faithful
    (pair_faithful hash_faithful (pair_faithful hash_faithful
      (pair_faithful innerHeader_faithful (pair_faithful hash_faithful
        (pair_faithful (option_faithful validators_faithful)
          (list_faithful (option_faithful signature_faithful) approval_visible))))))
    fun _ => rfl

theorem misbehaviour_faithful : misbehaviour.Faithful :=
  via_faithful
    (pair_faithful text_faithful (pair_faithful height_faithful
      (pair_faithful header_faithful header_faithful)))
    fun _ => rfl

theorem proofStep_faithful : proofStep.Faithful :=
  via_faithful (pair_faithful hash_faithful side_faithful) fun _ => rfl

theorem proofStep_visible : proofStep.Visible := by
  intro step
  simp [proofStep, via, pair, side, uint, leBytes]

theorem proof_faithful : proof.Faithful :=
  via_faithful
    (pair_faithful bytes_faithful (list_faithful proofStep_faithful proofStep_visible))
    fun _ => rfl

/-- The layout of every kind is faithful. -/
theorem ofKind_faithful (kind : Kind) : (ofKind kind).Faithful := by
  cases kind with
  | height => exact height_faithful
  | clientState => exact clientState_faithful
  | consensusState => exact consensusState_faithful
  | header => exact header_faithful
  | misbehaviour => exact misbehaviour_faithful
  | proof => exact proof_faithful
  | innerHeader => exact innerHeader_faithful
  | proofStep => exact proofStep_faithful
  | publicKey => exact publicKey_faithful
  | signature => exact signature_faithful
  | validator => exact validator_faithful
  | roster => exact roster_faithful

/-! ## Values that always fit -/

theorem option_fits {α : Type} {item : Layout α} (fits : ∀ value, item.Fits value) :
    (value : Option α) → (option item).Fits value
  | none => trivial
  | some value => fits value

theorem scheme_fits (value : Scheme) : scheme.Fits value := by
  change value.tag < 256
  cases value <;> decide

theorem height_fits (height : Height) : Layout.height.Fits height := ⟨trivial, trivial⟩

theorem publicKey_fits (key : PublicKey) : publicKey.Fits key :=
  ⟨scheme_fits key.scheme, trivial⟩

theorem validator_fits {value : Validator} (short : (utf8 value.account).length < capacity 4) :
    validator.Fits value :=
  ⟨(by decide : 0 < capacity 1), short, publicKey_fits value.key, value.stake.units_lt⟩

theorem clientState_fits (state : ClientState) : clientState.Fits state :=
  ⟨height_fits state.latestHeight, trivial, trivial, trivial,
    option_fits height_fits state.frozenHeight⟩

theorem consensusState_fits (state : ConsensusState) : consensusState.Fits state :=
  ⟨trivial, trivial, trivial, trivial, trivial, trivial⟩

theorem innerHeader_fits (inner : InnerHeader) : innerHeader.Fits inner :=
  ⟨trivial, trivial, trivial, trivial, trivial, trivial, trivial, trivial⟩

/-- A roster carries the fact that all its lengths fit. -/
theorem roster_fits (value : Roster) : roster.Fits value := by
  have writable := value.writable
  simp only [oversize?, List.find?_eq_none, List.mem_cons, List.mem_map, decide_eq_true_eq,
    Nat.not_le] at writable
  refine ⟨writable _ (Or.inl rfl), ?_⟩
  intro validator member
  exact validator_fits (writable _ (Or.inr ⟨validator, member, rfl⟩))

end Layout

namespace Compact

/-- Decoding gives back every value that the compact form has room for. -/
theorem decode_encode {kind : Kind} {value : kind.Carrier}
    (fits : (Layout.ofKind kind).Fits value) :
    decode kind (encode kind value) = .ok value := by
  have read := (Layout.ofKind_faithful kind value fits).runOn
  rw [decode, encode, read]

/-- Values of a kind that have one encoding are the same. -/
theorem encode_injective {kind : Kind} {left right : kind.Carrier}
    (leftFits : (Layout.ofKind kind).Fits left) (rightFits : (Layout.ofKind kind).Fits right)
    (equal : encode kind left = encode kind right) : left = right := by
  have decoded := decode_encode leftFits
  rw [equal, decode_encode rightFits] at decoded
  exact (Except.ok.inj decoded).symm

end Compact

end Finality
