import Finality.Proofs.Client.Registry

/-!
# Listing states

A record that decodes is the compact form of the value that is read from it, so reading a
value under a key says which bytes are kept there (`ClientId.readRecord?_eq_some_iff`). If
all records of a client decode, those of its states are the ones of the listed states, in
their order (`ClientId.LegibleStates.scan_states`). So the list ascends in height, and a state is
listed at a height exactly if it is read there
(`ClientId.LegibleStates.mem_consensusStates_iff`). This says which heights are dropped at a time.
-/

namespace Finality

namespace ClientId

variable {client : ClientId} {records : Records} {states : List (Height × ConsensusState)}

/-! ## Values and bytes -/

theorem readRecord?_eq_none_iff {kind : Kind} {key : Bytes} :
    readRecord? records kind key = .ok none ↔ records.get? key = none := by
  constructor
  · intro read
    cases stored : records.get? key with
    | none => rfl
    | some record =>
        rcases exists_decodeRecord stored read with ⟨value, -, equal⟩
        cases equal
  · exact readRecord?_of_missing

/-- A value is read under a key exactly if its compact form is kept there. -/
theorem readRecord?_eq_some_iff {kind : Kind} {key : Bytes} {value : kind.Carrier}
    (fits : (Layout.ofKind kind).Fits value) :
    readRecord? records kind key = .ok (some value) ↔
      records.get? key = some (Compact.encode kind value) := by
  constructor
  · intro read
    cases stored : records.get? key with
    | none =>
        rw [readRecord?_of_missing stored] at read
        cases read
    | some record =>
        rcases exists_decodeRecord stored read with ⟨other, decoded, equal⟩
        cases equal
        rw [encode_of_decodeRecord decoded]
  · exact readRecord?_of_get? fits

theorem clientState?_eq_some_iff {state : ClientState} :
    client.clientState? records = .ok (some state) ↔
      records.get? client.stateKey = some (Compact.encode .clientState state) :=
  readRecord?_eq_some_iff (Layout.clientState_fits state)

theorem consensusState?_eq_some_iff {height : Height} {consensus : ConsensusState} :
    client.consensusState? records height = .ok (some consensus) ↔
      records.get? (client.heightKey height) =
        some (Compact.encode .consensusState consensus) :=
  readRecord?_eq_some_iff (Layout.consensusState_fits consensus)

/-! ## The list of states -/

/-- The record of a state under its height. -/
def heightRecord (client : ClientId) (entry : Height × ConsensusState) : Bytes × Bytes :=
  (client.heightKey entry.1, Compact.encode .consensusState entry.2)

theorem heightRecord_injective : Function.Injective client.heightRecord :=
  @record_injective Height .consensusState _ (fun _ _ => heightKey_inj.1)
    Layout.consensusState_fits

/-- The records of the states of a client are those of the listed states, in their order. -/
theorem LegibleStates.scan_states (legible : client.LegibleStates records)
    (listed : client.consensusStates records = .ok states) :
    records.scan (Keyspace.states.stem client) = states.map client.heightRecord := by
  symm
  apply Outcome.map_of_mapM_ok listed
  intro entry member result read
  rcases entry with ⟨key, record⟩
  rcases legible.exists_heightKey member with ⟨height, rfl, -⟩
  simp only [heightKey, suffixOf_key, Height.ofSuffix?_suffix] at read
  rcases Outcome.bind_eq_ok_iff.1 read with ⟨value, decoded, ended⟩
  cases ended
  rw [heightRecord, encode_of_decodeRecord decoded, heightKey]

theorem consensusStates_of_scan
    (recorded : records.scan (Keyspace.states.stem client) = states.map client.heightRecord) :
    client.consensusStates records = .ok states := by
  rw [consensusStates, recorded]
  apply Outcome.mapM_map_ok
  intro entry
  have decodes : decodeRecord .consensusState (Compact.encode .consensusState entry.2) =
      .ok entry.2 := decodeRecord_encode (Layout.consensusState_fits entry.2)
  simp only [heightRecord, heightKey, suffixOf_key, Height.ofSuffix?_suffix, decodes]
  rfl

/-- States are listed in strictly ascending order of their heights. -/
theorem LegibleStates.ascending_states (legible : client.LegibleStates records)
    (listed : client.consensusStates records = .ok states) :
    states.Pairwise fun left right => left.1 < right.1 := by
  have ascending : Ascending (records.scan (Keyspace.states.stem client)) :=
    records.ascending_scan _
  rw [legible.scan_states listed, Ascending, List.pairwise_map] at ascending
  apply ascending.imp
  intro left right less
  exact heightKey_lt_iff.1 less

/-- A state is listed at a height exactly if it is read there. -/
theorem LegibleStates.mem_consensusStates_iff (legible : client.LegibleStates records)
    (listed : client.consensusStates records = .ok states)
    {height : Height} {consensus : ConsensusState} :
    (height, consensus) ∈ states ↔
      client.consensusState? records height = .ok (some consensus) := by
  rw [consensusState?_eq_some_iff, ← List.mem_map_of_injective heightRecord_injective,
    ← legible.scan_states listed, Records.mem_scan]
  exact and_iff_left (List.prefix_append _ _)

theorem mem_expiredHeights_iff {state : ClientState} {now : Int} {height : Height} :
    height ∈ expiredHeights state states now ↔
      height ≠ state.latestHeight ∧ ∃ consensus, (height, consensus) ∈ states ∧
        consensus.isExpired now state.trustingPeriod = true := by
  rw [expiredHeights, List.mem_map]
  constructor
  · intro given
    rcases given with ⟨⟨known, consensus⟩, member, rfl⟩
    rcases List.mem_filter.1 member with ⟨listed, passes⟩
    rcases Bool.and_eq_true_iff.1 passes with ⟨apart, expired⟩
    exact ⟨by simpa using apart, consensus, listed, expired⟩
  · intro given
    rcases given with ⟨apart, consensus, listed, expired⟩
    exact ⟨(height, consensus), List.mem_filter.2 ⟨listed, by simp [apart, expired]⟩, rfl⟩

/-- The heights that are dropped at a time are those of the expired states other than the
latest one. -/
theorem Legible.mem_expiredHeights_iff (legible : client.Legible records) {state : ClientState}
    (listed : client.consensusStates records = .ok states) {now : Int} {height : Height} :
    height ∈ expiredHeights state states now ↔
      height ≠ state.latestHeight ∧ ∃ consensus,
        client.consensusState? records height = .ok (some consensus) ∧
          consensus.isExpired now state.trustingPeriod = true := by
  simp only [ClientId.mem_expiredHeights_iff, legible.legibleStates.mem_consensusStates_iff listed]

end ClientId

end Finality
