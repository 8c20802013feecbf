import Mathlib.Data.Set.List
import Finality.Proofs.Client.WellKept
import Finality.Proofs.Wire.Bijection

/-!
# The registry of epochs

The epoch chain of a client is put together again from the records of its rosters, one
record after the other. Each record has an epoch of its own, so no step finds an epoch
bound already, and the chain is found whenever the records decode
(`ClientId.Legible.exists_chain`). It has the roster of exactly those epochs that have a
record, so the chain and the records tell the same about every epoch (`ClientId.Registers`).
-/

namespace Finality

/-! ## Chains as maps -/

namespace EpochChain

variable {chain : EpochChain} {epoch : Hash} {roster : Roster}

/-- The commitment to the roster of an epoch. -/
def commitment? (chain : EpochChain) (epoch : Hash) : Option Hash :=
  (chain.get? epoch.bytes).map Roster.commitment

theorem mem_of_get? (found : chain.get? epoch.bytes = some roster) :
    (epoch, roster) ∈ chain.epochs := by
  rw [get?, Option.map_eq_some_iff] at found
  rcases found with ⟨⟨known, value⟩, found, rfl⟩
  have sameBytes : known.bytes = epoch.bytes := by simpa using List.find?_some found
  rw [← Hash.ext_bytes sameBytes]
  exact List.mem_of_find?_eq_some found

/-- In a chain that binds no epoch twice, the entry of an epoch is the one that is found. -/
theorem get?_of_mem (distinct : (chain.epochs.map (·.1)).Nodup)
    (member : (epoch, roster) ∈ chain.epochs) : chain.get? epoch.bytes = some roster := by
  cases found : chain.get? epoch.bytes with
  | none =>
      rw [get?, Option.map_eq_none_iff, List.find?_eq_none] at found
      simpa using found _ member
  | some known =>
      have same := List.inj_on_of_nodup_map distinct (mem_of_get? found) member rfl
      cases same
      rfl

theorem get?_eq_none (unbound : epoch ∉ chain.epochs.map (·.1)) :
    chain.get? epoch.bytes = none := by
  cases found : chain.get? epoch.bytes with
  | none => rfl
  | some roster =>
      exact absurd (List.mem_map.2 ⟨_, mem_of_get? found, rfl⟩) unbound

/-- An epoch that is not bound yet is bound at the end of the chain. -/
theorem extend_of_unbound (unbound : chain.get? epoch.bytes = none) :
    chain.extend epoch.bytes roster = .ok ⟨chain.epochs ++ [(epoch, roster)]⟩ := by
  have read : Hash.ofBytes? epoch.bytes = some epoch := by
    rw [Hash.ofBytes?, dif_pos epoch.size_eq]
  rw [extend, unbound]
  simp only [read]

theorem get?_append (entry : Hash × Roster) (other : Hash) :
    (EpochChain.mk (chain.epochs ++ [entry])).get? other.bytes =
      (chain.get? other.bytes).or (if entry.1 = other then some entry.2 else none) := by
  have sameEpoch : entry.1.bytes = other.bytes ↔ entry.1 = other :=
    ⟨Hash.ext_bytes, congrArg Hash.bytes⟩
  rw [get?, List.find?_append, get?]
  cases chain.epochs.find? fun entry => entry.1.bytes = other.bytes with
  | some known => rfl
  | none => by_cases same : entry.1 = other <;> simp [sameEpoch, same]

/-- Extending a chain by an epoch adds the epoch if it is not bound. -/
theorem get?_of_extend {extended : EpochChain}
    (added : chain.extend epoch.bytes roster = .ok extended) (other : Hash) :
    extended.get? other.bytes =
      (chain.get? other.bytes).or (if epoch = other then some roster else none) := by
  cases bound : chain.get? epoch.bytes with
  | none =>
      rw [extend_of_unbound bound] at added
      cases added
      exact get?_append (epoch, roster) other
  | some known =>
      have unchanged : extended = chain := by
        rw [extend, bound] at added
        simp only at added
        split at added
        · cases added
          rfl
        · cases added
      rw [unchanged]
      by_cases same : epoch = other
      · rw [← same, bound, Option.some_or]
      · rw [if_neg same, Option.or_none]

/-- A chain is only extended by a roster that agrees with the one of the epoch, if there is
one. -/
theorem agrees_of_extend {extended : EpochChain} {known : Roster}
    (added : chain.extend epoch.bytes roster = .ok extended)
    (bound : chain.get? epoch.bytes = some known) : known.commitment = roster.commitment := by
  rw [extend, bound] at added
  simp only at added
  split at added
  · next agree => exact agree
  · cases added

end EpochChain

/-! ## Putting a chain together -/

namespace ClientId

variable {client : ClientId} {records : Records}

/-- A record fixes what it is the record of, if the key does and every value of the kind has a
compact form. -/
theorem record_injective {α : Type} {kind : Kind} {key : α → Bytes}
    (injective : Function.Injective key) (fits : ∀ value, (Layout.ofKind kind).Fits value) :
    Function.Injective fun entry : α × kind.Carrier =>
      (key entry.1, Compact.encode kind entry.2) := by
  intro left right equal
  rcases Prod.mk.inj equal with ⟨sameKey, sameForm⟩
  exact Prod.ext (injective sameKey)
    (Compact.encode_injective (fits left.2) (fits right.2) sameForm)

/-- The record of a roster under its epoch. -/
def epochRecord (client : ClientId) (entry : Hash × Roster) : Bytes × Bytes :=
  (client.epochKey entry.1.bytes, Compact.encode .roster entry.2)

theorem epochRecord_injective : Function.Injective client.epochRecord :=
  @record_injective Hash .roster _ (fun _ _ equal => Hash.ext_bytes (epochKey_inj.1 equal))
    Layout.roster_fits

theorem extendByRecord_epochRecord (chain : EpochChain) (entry : Hash × Roster) :
    client.extendByRecord chain (client.epochRecord entry) =
      chain.extend entry.1.bytes entry.2 := by
  have decodes : decodeRecord .roster (Compact.encode .roster entry.2) = .ok entry.2 :=
    decodeRecord_encode (Layout.roster_fits entry.2)
  rw [extendByRecord, epochRecord, decodes, epochKey, suffixOf_key]
  rfl

/-- Records of distinct epochs are appended to a chain one after the other. -/
theorem foldlM_extendByRecord {entries : List (Hash × Roster)} (start : EpochChain)
    (distinct : ((start.epochs ++ entries).map (·.1)).Nodup) :
    (entries.map client.epochRecord).foldlM client.extendByRecord start =
      .ok ⟨start.epochs ++ entries⟩ := by
  induction entries generalizing start with
  | nil =>
      rw [List.append_nil]
      rfl
  | cons entry entries ih =>
      have unbound : start.get? entry.1.bytes = none := by
        apply EpochChain.get?_eq_none
        intro bound
        rw [List.map_append] at distinct
        exact (List.nodup_append.1 distinct).2.2 _ bound entry.1 (by simp) rfl
      rw [List.append_cons] at distinct ⊢
      rw [List.map_cons, List.foldlM_cons, extendByRecord_epochRecord,
        EpochChain.extend_of_unbound unbound]
      exact ih ⟨start.epochs ++ [entry]⟩ distinct

theorem encode_of_decodeRecord {kind : Kind} {record : Bytes} {value : kind.Carrier}
    (decoded : decodeRecord kind record = .ok value) : Compact.encode kind value = record := by
  rw [decodeRecord, Outcome.orReject_eq_ok_iff] at decoded
  cases read : Compact.decode kind record with
  | error fault =>
      rw [read] at decoded
      cases decoded
  | ok other =>
      rw [read] at decoded
      cases decoded
      exact (Compact.encodeChecked_eq_ok_iff.1 (Compact.decode_eq_ok_iff.1 read)).2

/-- Every record of a roster is the one of some epoch. -/
theorem Legible.exists_entry (legible : client.Legible records) {record : Bytes × Bytes}
    (member : record ∈ records.scan (Keyspace.epochs.stem client)) :
    ∃ entry, client.epochRecord entry = record := by
  rcases record with ⟨key, value⟩
  rcases Records.mem_scan.1 member with ⟨stored, suffix, rfl⟩
  have present : records.get? (Keyspace.epochs.key client suffix) = some value := stored
  rcases legible.epochKeys suffix (by simp [present]) with ⟨epoch, rfl⟩
  rcases legible.readsRosters epoch.bytes with ⟨found, read⟩
  rcases exists_decodeRecord present read with ⟨roster, decoded, -⟩
  exact ⟨(epoch, roster), Prod.ext rfl (encode_of_decodeRecord decoded)⟩

/-- The records of rosters are those of some rosters, each of an epoch of its own. -/
theorem Legible.exists_entries (legible : client.Legible records) :
    ∃ entries : List (Hash × Roster), (entries.map (·.1)).Nodup ∧
      records.scan (Keyspace.epochs.stem client) = entries.map client.epochRecord := by
  have recorded : records.scan (Keyspace.epochs.stem client) ∈
      Set.range (List.map client.epochRecord) := by
    rw [Set.range_list_map]
    intro record member
    exact legible.exists_entry member
  rcases recorded with ⟨entries, recorded⟩
  refine ⟨entries, ?_, recorded.symm⟩
  have keys : ((records.scan (Keyspace.epochs.stem client)).map (·.1)).Nodup :=
    Entries.nodup_keys (records.ascending_scan _)
  have ofEpochs : (records.scan (Keyspace.epochs.stem client)).map (·.1) =
      (entries.map (·.1)).map fun epoch => client.epochKey epoch.bytes := by
    rw [← recorded, List.map_map, List.map_map]
    rfl
  rw [ofEpochs] at keys
  exact keys.of_map

/-- A chain is what the records of a client tell about epochs: it is put together from them,
and it has the roster of an epoch that is read from them. -/
structure Registers (client : ClientId) (records : Records) (chain : EpochChain) : Prop where
  rebuilt : client.epochChain records = .ok chain
  reads : ∀ epoch : Hash, client.roster? records epoch.bytes = .ok (chain.get? epoch.bytes)

/-- The chain of a client whose records decode is always found. -/
theorem Legible.exists_chain (legible : client.Legible records) :
    ∃ chain, client.Registers records chain := by
  rcases legible.exists_entries with ⟨entries, distinct, recorded⟩
  have isRecord : ∀ entry, entry ∈ entries ↔
      records.get? (client.epochKey entry.1.bytes) = some (Compact.encode .roster entry.2) := by
    intro entry
    rw [← List.mem_map_of_injective epochRecord_injective, ← recorded, Records.mem_scan]
    exact and_iff_left (List.prefix_append _ _)
  refine ⟨⟨entries⟩, ?_, ?_⟩
  · rw [epochChain, recorded]
    exact foldlM_extendByRecord EpochChain.empty distinct
  · intro epoch
    cases found : (EpochChain.mk entries).get? epoch.bytes with
    | some roster =>
        have stored := (isRecord (epoch, roster)).1 (EpochChain.mem_of_get? found)
        exact @readRecord?_of_get? records .roster _ roster (Layout.roster_fits roster) stored
    | none =>
        apply readRecord?_of_missing
        rw [Option.eq_none_iff_forall_ne_some]
        intro value stored
        have scanned : (client.epochKey epoch.bytes, value) ∈
            records.scan (Keyspace.epochs.stem client) :=
          Records.mem_scan.2 ⟨stored, List.prefix_append _ _⟩
        rcases legible.exists_entry scanned with ⟨⟨other, roster⟩, equal⟩
        rcases Prod.mk.inj equal with ⟨sameKey, rfl⟩
        have sameEpoch : other = epoch := Hash.ext_bytes (epochKey_inj.1 sameKey)
        subst sameEpoch
        have bound := @EpochChain.get?_of_mem ⟨entries⟩ other roster distinct
          ((isRecord (other, roster)).2 stored)
        rw [found] at bound
        cases bound

end ClientId

end Finality
