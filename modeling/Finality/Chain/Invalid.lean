import Finality.Datum

/-!
# Why a value cannot be built

The types of keys, heights, states and rosters admit only valid values. What is left to
decide is why parts that were given from outside make no value; every reason has one
fixed text.
-/

namespace Finality

/-- Why given parts make no value. -/
inductive Invalid where
  /-- A field is no integer below `2 ^ 64`. -/
  | notWord (field : String) (got : Datum)
  /-- A field is no hash. -/
  | notHash (field : String)
  /-- A client state trusts nothing. -/
  | noTrustingPeriod
  /-- A validator has no account. -/
  | noAccount
  /-- A stake is no integer below `2 ^ 128`. -/
  | notStake (got : Datum)
  /-- A roster has no validator. -/
  | noValidator
  /-- The validators of a roster hold no stake. -/
  | noStake
  /-- A length within a roster does not fit four bytes. -/
  | oversize (length : Nat)
  /-- There is no scheme with the tag. -/
  | noScheme (tag : Datum)
  /-- There is no side with the tag. -/
  | noSide (tag : Datum)
  /-- A key has the wrong number of bytes for its scheme. -/
  | keySize (scheme : Scheme) (got : Nat)
  /-- A signature has the wrong number of bytes for its scheme. -/
  | signatureSize (scheme : Scheme) (got : Nat)
  /-- An epoch id is no hash. -/
  | epochSize
  /-- A text holds an unpaired surrogate, so no bytes stand for it. -/
  | brokenText (codes : List Nat)
  /-- An integer has more decimal digits than are written as text. -/
  | longNumber
  /-- The host has no text for a part. -/
  | host (error : HostError)
deriving Inhabited

namespace Invalid

/-- The text of the fault that a text given by its codes has no bytes. It names the first
unpaired surrogates that stand side by side. -/
def brokenTextMessage (codes : List Nat) : String :=
  let place := (codes.takeWhile fun code => !Text.isSurrogate code).length
  let run := (codes.drop place).takeWhile Text.isSurrogate
  let what :=
    match run with
    | [code] => " '" ++ String.ofList (Text.codeEscape 'u' 4 code) ++ "' in position "
        ++ toString place
    | run => "s in position " ++ toString place ++ "-" ++ toString (place + run.length - 1)
  "'utf-8' codec can't encode character" ++ what ++ ": surrogates not allowed"

/-- A text that shows a datum, if the datum can be shown. -/
def showing (datum : Datum) (text : String → String) : String :=
  if datum.hasLongNumber then Integer.tooLongMessage else text datum.shown

/-- The text of a reason. -/
def message : Invalid → String
  | notWord field got => showing got fun shown => field ++ " must be a u64, got " ++ shown
  | notHash field => field ++ " must be " ++ toString hashSize ++ " bytes"
  | noTrustingPeriod => "trusting_period must be positive"
  | noAccount => "account_id must be non-empty"
  | notStake got => showing got fun shown => "stake must be a u128, got " ++ shown
  | noValidator => "validator set must not be empty"
  | noStake => "validator set must carry stake"
  | oversize length => "u32 out of range: " ++ toString length
  | noScheme tag => showing tag fun shown => shown ++ " is not a valid KeyType"
  | noSide tag => showing tag fun shown => shown ++ " is not a valid SiblingPosition"
  | keySize scheme got =>
    scheme.name ++ " public key must be " ++ toString scheme.keySize ++ " bytes, got "
      ++ toString got
  | signatureSize scheme got =>
    scheme.name ++ " signature must be " ++ toString scheme.signatureSize ++ " bytes, got "
      ++ toString got
  | epochSize => "epoch ids are 32-byte hashes"
  | brokenText codes => brokenTextMessage codes
  | longNumber => Integer.tooLongMessage
  | host error => error.message

/-- Whether a reason is about a value or the type of one, as all reasons of this library are. -/
def ofValue : Invalid → Bool
  | host error => error.ofValue
  | _ => true

end Invalid

/-- A number as a 64-bit word, when it fits. -/
def word (field : String) (value : Nat) : Except Invalid UInt64 :=
  if value < capacity 8 then .ok (UInt64.ofNat value) else .error (.notWord field (.nat value))

@[simp] theorem word_toNat (field : String) (value : UInt64) :
    word field value.toNat = .ok value := by
  have holds : value.toNat < capacity 8 := value.toNat_lt
  rw [word, if_pos holds, UInt64.ofNat_toNat]

namespace Height

/-- The height made of two numbers. -/
def ofNumbers (revision block : Nat) : Except Invalid Height := do
  let revision ← word "revision_number" revision
  let block ← word "revision_height" block
  return ⟨revision, block⟩

@[simp] theorem ofNumbers_toNat (height : Height) :
    ofNumbers height.revision.toNat height.block.toNat = .ok height := by
  rw [ofNumbers, word_toNat, word_toNat]
  rfl

end Height

namespace PublicKey

/-- The key of a scheme with the given bytes. -/
def ofBytes (scheme : Scheme) (data : Bytes) : Except Invalid PublicKey :=
  if h : data.length = scheme.keySize then .ok ⟨scheme, data, h⟩
  else .error (.keySize scheme data.length)

@[simp] theorem ofBytes_data (key : PublicKey) : ofBytes key.scheme key.data = .ok key :=
  dif_pos key.size_eq

end PublicKey

namespace Signature

/-- The signature of a scheme with the given bytes. -/
def ofBytes (scheme : Scheme) (data : Bytes) : Except Invalid Signature :=
  if h : data.length = scheme.signatureSize then .ok ⟨scheme, data, h⟩
  else .error (.signatureSize scheme data.length)

@[simp] theorem ofBytes_data (signature : Signature) :
    ofBytes signature.scheme signature.data = .ok signature :=
  dif_pos signature.size_eq

end Signature

namespace ClientState

/-- The client state with the given fields. -/
def ofFields (latestHeight : Height) (latestTimestamp trustingPeriod maxClockDrift : UInt64)
    (frozenHeight : Option Height) : Except Invalid ClientState :=
  if h : trustingPeriod ≠ 0 then
    .ok ⟨latestHeight, latestTimestamp, trustingPeriod, maxClockDrift, frozenHeight, h⟩
  else .error .noTrustingPeriod

@[simp] theorem ofFields_fields (state : ClientState) :
    ofFields state.latestHeight state.latestTimestamp state.trustingPeriod state.maxClockDrift
      state.frozenHeight = .ok state :=
  dif_pos state.trustingPeriod_ne

end ClientState

namespace Validator

/-- The validator with the given fields. -/
def ofFields (account : String) (key : PublicKey) (stake : Nat) : Except Invalid Validator :=
  if haccount : account ≠ "" then
    if hstake : stake < capacity 16 then .ok ⟨account, key, ⟨stake, hstake⟩, haccount⟩
    else .error (.notStake (.nat stake))
  else .error .noAccount

@[simp] theorem ofFields_fields (validator : Validator) :
    ofFields validator.account validator.key validator.stake.units = .ok validator := by
  rw [ofFields, dif_pos validator.account_ne, dif_pos validator.stake.units_lt]

end Validator

namespace Roster

/-- The roster of the given validators. -/
def ofValidators (validators : List Validator) : Except Invalid Roster :=
  if validators = [] then .error .noValidator
  else if hstaked : 0 < totalStake validators then
    match hwritable : oversize? validators with
    | none => .ok ⟨validators, hstaked, hwritable⟩
    | some length => .error (.oversize length)
  else .error .noStake

theorem ofValidators_eq_ok_iff {validators : List Validator} {roster : Roster} :
    ofValidators validators = .ok roster ↔ roster.validators = validators := by
  constructor
  · intro h
    simp only [ofValidators] at h
    split at h
    · cases h
    · split at h
      · split at h
        · cases h; rfl
        · cases h
      · cases h
  · rintro rfl
    simp only [ofValidators, roster.validators_ne_nil, ↓reduceIte, roster.staked, ↓reduceDIte]
    split
    · rfl
    · next length hlength => simp [roster.writable] at hlength

end Roster

end Finality
