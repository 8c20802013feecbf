import Finality.Client.Basic
import Finality.Proofs.Store.FiniteMap
import Finality.Proofs.Store.Keys
import Finality.Proofs.Wire.Compact

/-!
# Reading what was written

A client reads back the scalars, the consensus state and the roster that it wrote last
under a key, since every record is decoded to the value that it encodes. Each lemma here
says how one kind of read changes over a commit (`commitWrites`) or over a drop
(`pruneWrites`), so no later proof looks at keys or at bytes.
-/

namespace Finality

/-- A record is decoded to the value that it encodes. -/
theorem decodeRecord_encode {kind : Kind} {value : kind.Carrier}
    (fits : (Layout.ofKind kind).Fits value) :
    decodeRecord kind (Compact.encode kind value) = .ok value := by
  rw [decodeRecord, Compact.decode_encode fits]
  rfl

namespace ClientId

variable {client : ClientId} {records : Records}

theorem readRecord?_of_get? {kind : Kind} {key : Bytes} {value : kind.Carrier}
    (fits : (Layout.ofKind kind).Fits value)
    (stored : records.get? key = some (Compact.encode kind value)) :
    readRecord? records kind key = .ok (some value) := by
  rw [readRecord?, stored]
  simp only [decodeRecord_encode fits]
  rfl

theorem readRecord?_congr {next : Records} {kind : Kind} {key : Bytes}
    (same : next.get? key = records.get? key) :
    readRecord? next kind key = readRecord? records kind key := by
  rw [readRecord?, same, readRecord?]

theorem readRecord?_of_missing {kind : Kind} {key : Bytes}
    (missing : records.get? key = none) : readRecord? records kind key = .ok none := by
  rw [readRecord?, missing]

/-- A record that is there and that can be read decodes. -/
theorem exists_decodeRecord {kind : Kind} {key record : Bytes} {found : Option kind.Carrier}
    (stored : records.get? key = some record) (read : readRecord? records kind key = .ok found) :
    ∃ value, decodeRecord kind record = .ok value ∧ found = some value := by
  rw [readRecord?, stored] at read
  cases decoded : decodeRecord kind record with
  | error failure =>
      simp only [decoded] at read
      cases read
  | ok value =>
      simp only [decoded] at read
      cases read
      exact ⟨value, rfl, rfl⟩

theorem readRecord?_of_get?_ite {next : Records} {kind : Kind} {key : Bytes}
    {value : kind.Carrier} {condition : Prop} [Decidable condition]
    (fits : (Layout.ofKind kind).Fits value)
    (stored : next.get? key =
      if condition then some (Compact.encode kind value) else records.get? key) :
    readRecord? next kind key =
      if condition then .ok (some value) else readRecord? records kind key := by
  by_cases holds : condition
  · rw [if_pos holds] at stored ⊢
    exact readRecord?_of_get? fits stored
  · rw [if_neg holds] at stored ⊢
    exact readRecord?_congr stored

/-! ## Commits -/

section

variable {state : ClientState} {consensus : Option (Height × ConsensusState)}
  {roster : Option (Bytes × Roster)}

theorem get?_commit_stateKey :
    (records.applyAll (client.commitWrites state consensus roster)).get? client.stateKey =
      some (Compact.encode .clientState state) := by
  cases consensus <;> cases roster <;>
    simp [commitWrites, Records.applyAll, Records.get?_apply, Write.key, Write.value?,
      (stateKey_ne_heightKey _).symm, (stateKey_ne_epochKey _).symm]

theorem get?_commit_heightKey (height : Height) :
    (records.applyAll (client.commitWrites state consensus roster)).get?
        (client.heightKey height) =
      match consensus with
      | some (known, value) =>
        if known = height then some (Compact.encode .consensusState value)
        else records.get? (client.heightKey height)
      | none => records.get? (client.heightKey height) := by
  cases consensus <;> cases roster <;>
    simp [commitWrites, Records.applyAll, Records.get?_apply, Write.key, Write.value?,
      stateKey_ne_heightKey, (heightKey_ne_epochKey _ _).symm]

theorem get?_commit_epochKey (epoch : Bytes) :
    (records.applyAll (client.commitWrites state consensus roster)).get?
        (client.epochKey epoch) =
      match roster with
      | some (known, value) =>
        if known = epoch then some (Compact.encode .roster value)
        else records.get? (client.epochKey epoch)
      | none => records.get? (client.epochKey epoch) := by
  cases consensus <;> cases roster <;>
    simp [commitWrites, Records.applyAll, Records.get?_apply, Write.key, Write.value?,
      stateKey_ne_epochKey, heightKey_ne_epochKey]

/-- A commit touches no other keys of the client than those of what it writes. -/
theorem get?_commit_of_ne {space : Keyspace} {suffix : Bytes}
    (notScalars : space = .clients → suffix ≠ [])
    (notHeight : space = .states → ∀ height, suffix ≠ Height.suffix height)
    (notEpoch : space = .epochs → ∀ entry ∈ roster, suffix ≠ entry.1) :
    (records.applyAll (client.commitWrites state consensus roster)).get?
        (space.key client suffix) =
      records.get? (space.key client suffix) := by
  refine Records.get?_applyAll_of_untouched ?_
  intro write member sameKey
  rw [commitWrites, List.cons_append, List.mem_cons, List.mem_append, List.mem_map,
    List.mem_map] at member
  rcases member with rfl | ⟨entry, _, rfl⟩ | ⟨entry, entryMember, rfl⟩
  · rcases Keyspace.key_injective sameKey with ⟨sameSpace, -, sameSuffix⟩
    exact notScalars sameSpace.symm sameSuffix.symm
  · rcases Keyspace.key_injective sameKey with ⟨sameSpace, -, sameSuffix⟩
    exact notHeight sameSpace.symm entry.1 sameSuffix.symm
  · rcases Keyspace.key_injective sameKey with ⟨sameSpace, -, sameSuffix⟩
    exact notEpoch sameSpace.symm entry (by simpa using entryMember) sameSuffix.symm

@[simp] theorem clientState?_commit :
    client.clientState? (records.applyAll (client.commitWrites state consensus roster)) =
      .ok (some state) :=
  readRecord?_of_get? (Layout.clientState_fits state) get?_commit_stateKey

theorem consensusState?_commit (height : Height) :
    client.consensusState? (records.applyAll (client.commitWrites state consensus roster))
        height =
      match consensus with
      | some (known, value) =>
        if known = height then .ok (some value) else client.consensusState? records height
      | none => client.consensusState? records height := by
  cases consensus with
  | none => exact readRecord?_congr (get?_commit_heightKey height)
  | some entry =>
      exact readRecord?_of_get?_ite (Layout.consensusState_fits entry.2)
        (get?_commit_heightKey height)

/-- No commit drops a state. -/
theorem consensusState?_commit_ne_none {height : Height}
    (present : client.consensusState? records height ≠ .ok none) :
    client.consensusState? (records.applyAll (client.commitWrites state consensus roster))
      height ≠ .ok none := by
  rw [consensusState?_commit]
  split
  · split
    · intro equal
      cases equal
    · exact present
  · exact present

theorem roster?_commit (epoch : Bytes) :
    client.roster? (records.applyAll (client.commitWrites state consensus roster)) epoch =
      match roster with
      | some (known, value) =>
        if known = epoch then .ok (some value) else client.roster? records epoch
      | none => client.roster? records epoch := by
  cases roster with
  | none => exact readRecord?_congr (get?_commit_epochKey epoch)
  | some entry =>
      exact readRecord?_of_get?_ite (Layout.roster_fits entry.2) (get?_commit_epochKey epoch)

end

/-! ## Drops -/

section

variable {heights : List Height}

theorem pruneWrites_eq :
    client.pruneWrites heights = (heights.map client.heightKey).map .delete := by
  rw [pruneWrites, List.map_map]
  rfl

theorem get?_prune_of_ne {space : Keyspace} {suffix : Bytes}
    (notHeight : space = .states → ∀ height, suffix ≠ Height.suffix height) :
    (records.applyAll (client.pruneWrites heights)).get? (space.key client suffix) =
      records.get? (space.key client suffix) := by
  rw [pruneWrites_eq, Records.get?_applyAll_deletes, if_neg]
  intro member
  rcases List.mem_map.1 member with ⟨height, -, sameKey⟩
  rcases Keyspace.key_injective sameKey with ⟨sameSpace, -, sameSuffix⟩
  exact notHeight sameSpace.symm height sameSuffix.symm

theorem get?_prune_heightKey (height : Height) :
    (records.applyAll (client.pruneWrites heights)).get? (client.heightKey height) =
      if height ∈ heights then none else records.get? (client.heightKey height) := by
  rw [pruneWrites_eq, Records.get?_applyAll_deletes]
  simp

@[simp] theorem clientState?_prune :
    client.clientState? (records.applyAll (client.pruneWrites heights)) =
      client.clientState? records :=
  readRecord?_congr (get?_prune_of_ne fun equal => absurd equal Keyspace.clients_ne_states)

theorem consensusState?_prune (height : Height) :
    client.consensusState? (records.applyAll (client.pruneWrites heights)) height =
      if height ∈ heights then .ok none else client.consensusState? records height := by
  by_cases dropped : height ∈ heights
  · rw [if_pos dropped]
    refine readRecord?_of_missing ?_
    rw [get?_prune_heightKey, if_pos dropped]
  · rw [if_neg dropped]
    refine readRecord?_congr ?_
    rw [get?_prune_heightKey, if_neg dropped]

@[simp] theorem roster?_prune (epoch : Bytes) :
    client.roster? (records.applyAll (client.pruneWrites heights)) epoch =
      client.roster? records epoch :=
  readRecord?_congr
    (get?_prune_of_ne fun equal => absurd equal.symm Keyspace.states_ne_epochs)

end

end ClientId

end Finality
