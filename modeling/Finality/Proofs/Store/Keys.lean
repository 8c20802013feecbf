import Finality.Client.Basic
import Finality.Proofs.Chain.Height

/-!
# Keys are unambiguous

A key can be taken apart in one way only: the tag ends at the first slash, the byte
behind it counts the bytes of the id, and the rest is the suffix. So what the keys of a
client start with is the start of no other key (`Keyspace.stem_isPrefix_key_iff`), and a
key fixes its family, its client and its suffix (`Keyspace.key_injective`). Heights and
epochs can be read back from the suffixes of their keys.

Numbers of one width are ordered as their bytes are (`beBytes_lt_beBytes`), so the keys of
heights are ordered as the heights (`ClientId.heightKey_lt_iff`).
-/

namespace Finality

namespace Height

theorem length_suffix (height : Height) : height.suffix.length = 16 := by
  simp [suffix]

/-- A height is read back from the suffix that it makes. -/
theorem ofSuffix?_suffix (height : Height) : ofSuffix? height.suffix = some height := by
  have revision : height.suffix.take 8 = beBytes 8 height.revision.toNat :=
    List.take_left' (length_beBytes 8 _)
  have block : height.suffix.drop 8 = beBytes 8 height.block.toNat :=
    List.drop_left' (length_beBytes 8 _)
  rw [ofSuffix?, if_pos height.length_suffix, revision, block,
    beValue_beBytes height.revision.toNat_lt, beValue_beBytes height.block.toNat_lt,
    UInt64.ofNat_toNat, UInt64.ofNat_toNat]

theorem suffix_injective {left right : Height} (equal : left.suffix = right.suffix) :
    left = right := by
  have read := left.ofSuffix?_suffix
  rw [equal, right.ofSuffix?_suffix] at read
  exact (Option.some.inj read).symm

/-- A suffix is read as a height exactly if the height makes it. -/
theorem ofSuffix?_eq_some_iff {suffix : Bytes} {height : Height} :
    ofSuffix? suffix = some height ↔ suffix = height.suffix := by
  constructor
  · intro read
    rw [ofSuffix?] at read
    split at read
    · next sixteen =>
      cases read
      have front : (suffix.take 8).length = 8 := by simp [sixteen]
      have back : (suffix.drop 8).length = 8 := by simp [sixteen]
      have revision := beValue_lt (suffix.take 8)
      have block := beValue_lt (suffix.drop 8)
      have revisionBytes := beBytes_beValue (suffix.take 8)
      have blockBytes := beBytes_beValue (suffix.drop 8)
      rw [front] at revision revisionBytes
      rw [back] at block blockBytes
      rw [Height.suffix, UInt64.toNat_ofNat_of_lt' revision, UInt64.toNat_ofNat_of_lt' block,
        revisionBytes, blockBytes, List.take_append_drop]
    · cases read
  · rintro rfl
    exact ofSuffix?_suffix height

end Height

/-! ## Taking keys apart -/

theorem ClientId.ext_text {client rival : ClientId} (equal : client.text = rival.text) :
    client = rival := by
  cases client
  cases rival
  cases equal
  rfl

namespace Keyspace

theorem ext_tag {space other : Keyspace} (equal : space.tag = other.tag) : space = other := by
  cases space
  cases other
  cases equal
  rfl

/-- Byte strings without a slash are fixed by what stands before the first slash. -/
theorem append_slash_inj {head other rest tail : Bytes} (headFree : slash ∉ head)
    (otherFree : slash ∉ other) (equal : head ++ slash :: rest = other ++ slash :: tail) :
    head = other ∧ rest = tail := by
  induction head generalizing other with
  | nil =>
      cases other with
      | nil => exact ⟨rfl, (List.cons.inj equal).2⟩
      | cons byte other =>
          have slashFirst := (List.cons.inj equal).1
          exact absurd (slashFirst ▸ List.mem_cons_self) otherFree
  | cons byte head ih =>
      cases other with
      | nil =>
          have slashFirst := (List.cons.inj equal).1
          exact absurd (slashFirst ▸ List.mem_cons_self) headFree
      | cons otherByte other =>
          rcases List.cons.inj equal with ⟨sameByte, restEqual⟩
          obtain ⟨sameHead, sameRest⟩ := ih (fun member => headFree (List.mem_cons_of_mem _ member))
            (fun member => otherFree (List.mem_cons_of_mem _ member)) restEqual
          exact ⟨by rw [sameByte, sameHead], sameRest⟩

/-- Two keys that are equal agree in all three parts. -/
theorem key_injective {space other : Keyspace} {client rival : ClientId}
    {suffix tail : Bytes} (equal : space.key client suffix = other.key rival tail) :
    space = other ∧ client = rival ∧ suffix = tail := by
  simp only [key, stem, List.append_assoc, List.cons_append] at equal
  rcases append_slash_inj space.tag_ok.2 other.tag_ok.2 equal with ⟨tagEqual, bodyEqual⟩
  rcases List.cons.inj bodyEqual with ⟨countEqual, idEqual⟩
  have sizeEqual : (utf8 client.text).length = (utf8 rival.text).length := by
    have counts := congrArg UInt8.toNat countEqual
    rwa [UInt8.toNat_ofNat_of_lt' client.size_lt,
      UInt8.toNat_ofNat_of_lt' rival.size_lt] at counts
  rcases List.append_inj idEqual sizeEqual with ⟨textEqual, suffixEqual⟩
  exact ⟨ext_tag tagEqual, ClientId.ext_text (utf8_injective textEqual), suffixEqual⟩

/-- What the keys of a client in a family start with is the start of these keys only. -/
theorem stem_isPrefix_key_iff {space other : Keyspace} {client rival : ClientId}
    {suffix : Bytes} :
    space.stem client <+: other.key rival suffix ↔ space = other ∧ client = rival := by
  constructor
  · intro given
    rcases given with ⟨rest, equal⟩
    have keyEqual : space.key client rest = other.key rival suffix := equal
    rcases key_injective keyEqual with ⟨sameSpace, sameClient, -⟩
    exact ⟨sameSpace, sameClient⟩
  · intro given
    rcases given with ⟨rfl, rfl⟩
    exact List.prefix_append _ _

theorem clients_ne_states : clients ≠ states := by
  intro equal
  cases congrArg tag equal

theorem clients_ne_epochs : clients ≠ epochs := by
  intro equal
  cases congrArg tag equal

theorem states_ne_epochs : states ≠ epochs := by
  intro equal
  cases congrArg tag equal

/-- The families of the records of clients. -/
def families : List Keyspace := [clients, states, epochs]

@[simp] theorem mem_families {space : Keyspace} :
    space ∈ families ↔ space = clients ∨ space = states ∨ space = epochs := by
  simp [families]

end Keyspace

namespace ClientId

variable {client : ClientId}

theorem stateKey_ne_heightKey (height : Height) : client.stateKey ≠ client.heightKey height :=
  fun equal => Keyspace.clients_ne_states (Keyspace.key_injective equal).1

theorem stateKey_ne_epochKey (epoch : Bytes) : client.stateKey ≠ client.epochKey epoch :=
  fun equal => Keyspace.clients_ne_epochs (Keyspace.key_injective equal).1

theorem heightKey_ne_epochKey (height : Height) (epoch : Bytes) :
    client.heightKey height ≠ client.epochKey epoch :=
  fun equal => Keyspace.states_ne_epochs (Keyspace.key_injective equal).1

@[simp] theorem heightKey_inj {left right : Height} :
    client.heightKey left = client.heightKey right ↔ left = right := by
  constructor
  · intro equal
    exact Height.suffix_injective (Keyspace.key_injective equal).2.2
  · rintro rfl
    rfl

@[simp] theorem epochKey_inj {left right : Bytes} :
    client.epochKey left = client.epochKey right ↔ left = right := by
  constructor
  · intro equal
    exact (Keyspace.key_injective equal).2.2
  · rintro rfl
    rfl

@[simp] theorem suffixOf_key (space : Keyspace) (suffix : Bytes) :
    client.suffixOf space (space.key client suffix) = suffix :=
  List.drop_left

end ClientId

/-! ## The order of keys -/

theorem beBytes_succ (width value : Nat) :
    beBytes (width + 1) value = beBytes width (value / 256) ++ [UInt8.ofNat (value % 256)] := by
  rw [beBytes, leBytes, List.reverse_cons]
  rfl

/-- What follows two byte strings of one length does not change their order. -/
theorem append_lt_append {left right leftRest rightRest : Bytes}
    (sameLength : left.length = right.length) (less : left < right) :
    left ++ leftRest < right ++ rightRest := by
  induction left generalizing right with
  | nil =>
      cases right with
      | nil => exact absurd less (List.not_lt_nil _)
      | cons byte right => cases sameLength
  | cons first left ih =>
      cases right with
      | nil => cases sameLength
      | cons byte right =>
          rw [List.cons_append, List.cons_append, List.cons_lt_cons_iff]
          rcases List.cons_lt_cons_iff.1 less with below | ⟨same, less⟩
          · exact Or.inl below
          · exact Or.inr ⟨same, ih (Nat.succ.inj sameLength) less⟩

/-- Numbers of one width are ordered as their bytes are. -/
theorem beBytes_lt_beBytes {width left right : Nat} (less : left < right)
    (fits : right < capacity width) : beBytes width left < beBytes width right := by
  induction width generalizing left right with
  | zero =>
      rw [capacity] at fits
      omega
  | succ width ih =>
      rw [capacity] at fits
      rw [beBytes_succ, beBytes_succ]
      by_cases same : left / 256 = right / 256
      · rw [same]
        apply List.append_left_lt
        rw [List.cons_lt_cons_iff, UInt8.lt_iff_toNat_lt, UInt8.toNat_ofNat',
          UInt8.toNat_ofNat']
        omega
      · apply append_lt_append
        · rw [length_beBytes, length_beBytes]
        · apply ih
          · omega
          · omega

theorem Height.suffix_lt_suffix {left right : Height} (less : left < right) :
    left.suffix < right.suffix := by
  rcases less with lower | ⟨same, lower⟩
  · apply append_lt_append
    · rw [length_beBytes, length_beBytes]
    · exact beBytes_lt_beBytes (UInt64.lt_iff_toNat_lt.1 lower) right.revision.toNat_lt
  · rw [suffix, suffix, same]
    apply List.append_left_lt
    exact beBytes_lt_beBytes (UInt64.lt_iff_toNat_lt.1 lower) right.block.toNat_lt

namespace Height

/-- What ascends with heights is ordered as they are. -/
theorem lt_iff_of_ascends {key : Height → Bytes}
    (ascends : ∀ {low high}, low < high → key low < key high) {left right : Height} :
    key left < key right ↔ left < right := by
  constructor
  · intro less
    rcases lt_or_eq_or_lt left right with below | rfl | above
    · exact below
    · exact absurd less (List.lt_irrefl _)
    · exact absurd (ascends above) (List.lt_asymm less)
  · exact ascends

/-- The suffixes of heights are ordered as the heights are. -/
theorem suffix_lt_suffix_iff {left right : Height} : left.suffix < right.suffix ↔ left < right :=
  lt_iff_of_ascends suffix_lt_suffix

end Height

/-- The keys of heights are ordered as the heights are. -/
theorem ClientId.heightKey_lt_iff {client : ClientId} {left right : Height} :
    client.heightKey left < client.heightKey right ↔ left < right :=
  Height.lt_iff_of_ascends fun less => List.append_left_lt (Height.suffix_lt_suffix less)

end Finality
