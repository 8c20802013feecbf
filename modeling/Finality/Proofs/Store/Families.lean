import Finality.Proofs.Store.Keys
import Finality.Proofs.Store.Scans

/-!
# Families of clients

Tags and ids that are accepted can be told apart by the keys made from them, whatever their bytes
are: the tag ends at the first slash, and the byte behind it counts the bytes of the id. So a scan
for a family of a client meets the records under its keys and no others
(`Store.mem_scan_stem_iff`), and the scans for two of them have no key in common
(`families_disjoint`).
-/

namespace Finality

namespace Keyspace

variable {tag : Bytes} {space other : Keyspace} {client rival : ClientId}

/-- A tag makes the family that has it. -/
theorem ofTag?_eq_some_iff : ofTag? tag = some space ↔ space.tag = tag := by
  rw [ofTag?]
  constructor
  · intro made
    split at made
    · cases made
      rfl
    · cases made
  · rintro rfl
    exact dif_pos space.tag_ok

theorem stem_isPrefix_iff {key : Bytes} :
    space.stem client <+: key ↔ ∃ suffix, key = space.key client suffix := by
  constructor
  · rintro ⟨suffix, rfl⟩
    exact ⟨suffix, rfl⟩
  · rintro ⟨suffix, rfl⟩
    exact List.prefix_append _ _

theorem key_inj {suffix tail : Bytes} :
    space.key client suffix = other.key rival tail ↔
      space = other ∧ client = rival ∧ suffix = tail := by
  constructor
  · exact key_injective
  · rintro ⟨rfl, rfl, rfl⟩
    rfl

end Keyspace

/-- A text is the id of the client that it names. -/
theorem ClientId.ofText?_eq_some_iff {text : String} {client : ClientId} :
    ofText? text = some client ↔ client.text = text := by
  rw [ofText?]
  constructor
  · intro named
    split at named
    · cases named
      rfl
    · cases named
  · rintro rfl
    exact dif_pos ⟨client.size_pos, client.size_lt⟩

namespace Store

variable {store : Store} {stem : Bytes} {found : List (Bytes × Bytes)}

/-- Only an open store can be scanned. -/
theorem exists_content_of_scan (scanned : store.scan stem = .ok found) :
    ∃ records, store.content? = some records ∧ found = records.scan stem := by
  cases opened : store.content? with
  | some records =>
      rw [scan_eq opened] at scanned
      cases scanned
      exact ⟨records, rfl, rfl⟩
  | none =>
      cases store with
      | memory memory => cases opened
      | table kind table => cases opened
      | closed kind table => cases scanned

/-- A scan for a family of a client meets the records that are kept under its keys. -/
theorem mem_scan_stem_iff {space : Keyspace} {client : ClientId} {key value : Bytes}
    (scanned : store.scan (space.stem client) = .ok found) :
    (key, value) ∈ found ↔
      (∃ suffix, key = space.key client suffix) ∧ store.get? key = .ok (some value) := by
  rcases exists_content_of_scan scanned with ⟨records, opened, rfl⟩
  rw [Records.mem_scan, Keyspace.stem_isPrefix_iff, get?_eq opened, Except.ok.injEq, and_comm]

/-- What the scans for two families of clients meet, in any two stores, is kept under different
keys. -/
theorem keys_ne_of_scans {later : Store} {met : List (Bytes × Bytes)} {space other : Keyspace}
    {client rival : ClientId} (apart : ¬(space = other ∧ client = rival))
    (scanned : store.scan (space.stem client) = .ok found)
    (rescanned : later.scan (other.stem rival) = .ok met) :
    ∀ record ∈ found, ∀ rivalRecord ∈ met, record.1 ≠ rivalRecord.1 := by
  intro record isFound rivalRecord isMet equal
  rcases (mem_scan_stem_iff scanned).1 isFound with ⟨⟨suffix, key⟩, -⟩
  rcases (mem_scan_stem_iff rescanned).1 isMet with ⟨⟨tail, rivalKey⟩, -⟩
  rw [key, rivalKey] at equal
  rcases Keyspace.key_inj.1 equal with ⟨sameSpace, sameClient, -⟩
  exact apart ⟨sameSpace, sameClient⟩

end Store

/-- Two tags and two ids are accepted. What the keys made from the first start with is the start of
a key made from the others only if tag and id are the same, and equal keys have the same suffix as
well. So a scan meets the records under keys of its own, and what two scans of any stores meet is
kept under different keys unless tag and id are the same. -/
theorem families_disjoint {tag otherTag : Bytes} {text rivalText : String}
    {space other : Keyspace} {client rival : ClientId}
    (tagged : Keyspace.ofTag? tag = some space)
    (otherTagged : Keyspace.ofTag? otherTag = some other)
    (named : ClientId.ofText? text = some client)
    (rivalNamed : ClientId.ofText? rivalText = some rival) :
    (∀ suffix, space.stem client <+: other.key rival suffix ↔ tag = otherTag ∧ text = rivalText) ∧
    (∀ suffix tail, space.key client suffix = other.key rival tail ↔
      tag = otherTag ∧ text = rivalText ∧ suffix = tail) ∧
    (∀ store found, Store.scan store (space.stem client) = .ok found → ∀ key value,
      (key, value) ∈ found ↔
        (∃ suffix, key = space.key client suffix) ∧ store.get? key = .ok (some value)) ∧
    (¬(tag = otherTag ∧ text = rivalText) → ∀ store later found met,
      Store.scan store (space.stem client) = .ok found →
        Store.scan later (other.stem rival) = .ok met →
          ∀ record ∈ found, ∀ rivalRecord ∈ met, record.1 ≠ rivalRecord.1) := by
  cases Keyspace.ofTag?_eq_some_iff.1 tagged
  cases Keyspace.ofTag?_eq_some_iff.1 otherTagged
  cases ClientId.ofText?_eq_some_iff.1 named
  cases ClientId.ofText?_eq_some_iff.1 rivalNamed
  have sameSpace : space.tag = other.tag ↔ space = other := ⟨Keyspace.ext_tag, congrArg _⟩
  have sameClient : client.text = rival.text ↔ client = rival := ⟨ClientId.ext_text, congrArg _⟩
  rw [sameSpace, sameClient]
  refine ⟨fun suffix => Keyspace.stem_isPrefix_key_iff, fun suffix tail => Keyspace.key_inj,
    fun store found scanned key value => Store.mem_scan_stem_iff scanned, ?_⟩
  intro apart store later found met scanned rescanned
  exact Store.keys_ne_of_scans apart scanned rescanned

/-! ## Two ids of slashes -/

namespace Sample

/-- An id of so many slashes that the byte that counts them is a slash as well. -/
def slashes : ClientId := ⟨String.ofList (List.replicate 47 '/'), by decide, by decide⟩

/-- An id of one more slash. -/
def moreSlashes : ClientId := ⟨String.ofList (List.replicate 48 '/'), by decide, by decide⟩

/-- A memory with a record of each of the two. -/
def sharedMemory : Memory :=
  ⟨[(Keyspace.clients.key moreSlashes [1], [6]), (Keyspace.clients.key slashes [1], [5])],
    by decide⟩

end Sample

/-- One id extends the other, and its keys do not. -/
theorem families_disjoint_sample :
    Keyspace.ofTag? [99] = some .clients ∧
      ClientId.ofText? Sample.slashes.text = some Sample.slashes ∧
      ClientId.ofText? Sample.moreSlashes.text = some Sample.moreSlashes ∧
      ¬Keyspace.clients.stem Sample.slashes <+: Keyspace.clients.key Sample.moreSlashes [1] ∧
      (Store.memory Sample.sharedMemory).scan (Keyspace.clients.stem Sample.slashes) =
        .ok [(Keyspace.clients.key Sample.slashes [1], [5])] ∧
      (Store.memory Sample.sharedMemory).scan (Keyspace.clients.stem Sample.moreSlashes) =
        .ok [(Keyspace.clients.key Sample.moreSlashes [1], [6])] ∧
      Keyspace.clients.key Sample.slashes [1] ≠ Keyspace.clients.key Sample.moreSlashes [1] := by
  have tagged : Keyspace.ofTag? [99] = some .clients := rfl
  have named : ClientId.ofText? Sample.slashes.text = some Sample.slashes :=
    ClientId.ofText?_eq_some_iff.2 rfl
  have moreNamed : ClientId.ofText? Sample.moreSlashes.text = some Sample.moreSlashes :=
    ClientId.ofText?_eq_some_iff.2 rfl
  have apart : Sample.slashes.text ≠ Sample.moreSlashes.text := by decide
  have scanned : (Store.memory Sample.sharedMemory).scan (Keyspace.clients.stem Sample.slashes) =
      .ok [(Keyspace.clients.key Sample.slashes [1], [5])] := rfl
  have rescanned :
      (Store.memory Sample.sharedMemory).scan (Keyspace.clients.stem Sample.moreSlashes) =
        .ok [(Keyspace.clients.key Sample.moreSlashes [1], [6])] := rfl
  rcases families_disjoint tagged tagged named moreNamed with ⟨starts, -, -, disjoint⟩
  refine ⟨tagged, named, moreNamed, fun given => apart ((starts [1]).1 given).2, scanned,
    rescanned, ?_⟩
  exact disjoint (fun same => apart same.2) _ _ _ _ scanned rescanned _ (List.mem_singleton_self _)
    _ (List.mem_singleton_self _)

end Finality
