import Finality.Proofs.Outcome
import Finality.Proofs.Wire.Fields

/-!
# Keys without a text

A fault of a field map names the keys that are not expected. A key that has no text cannot be
named, and the first such key that the host comes to ends the reading of the map
(`Fielded.fields_eq_invalid_iff`); if there is none, the order in which the host goes through the
keys cannot be seen (`Fielded.fields_of_named`). A value is read from many maps: where the
reading ends with a reason that is not about a value, one of these maps has a key with this
reason (`Fielded.read_traces`).
-/

namespace Finality

/-- There is a map in data that has a key without a text, for a reason. -/
inductive Datum.Unnamed (reason : Invalid) : Datum → Prop where
  | key {entries : List (Datum × Datum)} {key value : Datum} : (key, value) ∈ entries →
      Fielded.keyText key = .error (.invalid reason) → Unnamed reason (.map entries)
  | value {entries : List (Datum × Datum)} {key value : Datum} : (key, value) ∈ entries →
      Unnamed reason value → Unnamed reason (.map entries)
  | item {items : List Datum} {item : Datum} : item ∈ items → Unnamed reason item →
      Unnamed reason (.list items)

/-- A datum is a map with keys that are not among some names, and the first of them that the host
finds to have no text has none for a reason. -/
def Datum.FirstUnnamed [Host] (names : List String) (reason : Invalid) (datum : Datum) : Prop :=
  ∃ entries before key after, datum = .map entries ∧
    Host.visited (Fielded.unexpected names entries) = before ++ key :: after ∧
      (∀ other ∈ before, ∃ text, Fielded.keyText other = .ok text) ∧
        Fielded.keyText key = .error (.invalid reason)

theorem Datum.FirstUnnamed.unnamed [Host] {names : List String} {reason : Invalid} {datum : Datum}
    (first : datum.FirstUnnamed names reason) : datum.Unnamed reason := by
  rcases first with ⟨entries, before, key, after, rfl, split, -, nameless⟩
  have visited : key ∈ Host.visited (Fielded.unexpected names entries) := by
    rw [split]
    exact List.mem_append_right _ List.mem_cons_self
  rw [(Host.visited_perm _).mem_iff, Fielded.mem_unexpected_iff] at visited
  rcases List.mem_map.1 visited.1 with ⟨⟨_, value⟩, among, rfl⟩
  exact .key among nameless

namespace Fielded

variable {α : Type} {place name : String} {names : List String} {datum key : Datum}
  {entries : List (Datum × Datum)} {reason : Invalid} {reading : Reading}

/-! ## One map -/

/-- A key has no text because its number is too long or because the host fails on it. -/
theorem keyText_fails :
    Outcome.FailsWith
      (fun fault => fault = .invalid .longNumber ∨ ∃ error, fault = .invalid (.host error))
      (keyText key) := by
  rw [keyText.eq_def]
  split
  · next error _ => exact .error (Or.inr ⟨error, rfl⟩)
  · split
    · exact .error (Or.inl rfl)
    · exact .ok _

theorem fields_map_eq_invalid_iff [Host] :
    fields place names (.map entries) = .error (.invalid reason) ↔
      (Host.visited (unexpected names entries)).mapM keyText = .error (.invalid reason) := by
  rw [fields]
  generalize unexpected names entries = extra
  split
  · next complete =>
    rw [Bool.and_eq_true, List.isEmpty_iff, List.isEmpty_iff] at complete
    rw [complete.2, (Host.visited_perm []).eq_nil]
    constructor <;> intro equal <;> cases equal
  · rw [Outcome.bind_eq_error_iff]
    constructor
    · rintro (failed | ⟨texts, -, failed⟩)
      · exact failed
      · cases failed
    · exact Or.inl

/-- Reading fields ends with a reason exactly for a map whose first unexpected key without a text
has none for this reason. -/
theorem fields_eq_invalid_iff [Host] :
    fields place names datum = .error (.invalid reason) ↔ datum.FirstUnnamed names reason := by
  constructor
  · intro failed
    cases datum with
    | map entries =>
        rcases Outcome.mapM_eq_error_iff.1 (fields_map_eq_invalid_iff.1 failed) with
          ⟨before, key, after, split, passes, nameless⟩
        exact ⟨entries, before, key, after, rfl, split, passes, nameless⟩
    | _ => cases failed
  · rintro ⟨entries, before, key, after, rfl, split, passes, nameless⟩
    exact fields_map_eq_invalid_iff.2
      (Outcome.mapM_eq_error_iff.2 ⟨before, key, after, split, passes, nameless⟩)

/-! ## The order of keys -/

theorem placeText_eq_orderedInsert (text : String) (texts : List String) :
    placeText text texts = texts.orderedInsert (· ≤ ·) text := by
  induction texts with
  | nil => rfl
  | cons other texts ih =>
      rw [placeText, ih]
      split
      · next before => exact (List.orderedInsert_of_not_le _ _ (String.not_le.2 before)).symm
      · next before => exact (List.orderedInsert_cons_of_le _ _ (String.not_lt.1 before)).symm

theorem sortTexts_eq_insertionSort (texts : List String) :
    sortTexts texts = texts.insertionSort (· ≤ ·) := by
  induction texts with
  | nil => rfl
  | cons text texts ih =>
      rw [sortTexts, ih, placeText_eq_orderedInsert, List.insertionSort_cons]

/-- Sorted texts do not tell in which order they came. -/
theorem sortTexts_congr {texts others : List String} (perm : texts.Perm others) :
    sortTexts texts = sortTexts others := by
  rw [sortTexts_eq_insertionSort, sortTexts_eq_insertionSort]
  refine List.Perm.eq_of_pairwise' (List.pairwise_insertionSort _ _)
    (List.pairwise_insertionSort _ _) ?_
  exact (List.perm_insertionSort _ _).trans (perm.trans (List.perm_insertionSort _ _).symm)

/-- The text of a key is the one that it is shown by. -/
theorem display_of_keyText {text : String} (named : keyText key = .ok text) :
    key.display = text := by
  rw [keyText.eq_def] at named
  split at named
  · cases named
  · split at named
    · cases named
    · exact Except.ok.inj named

theorem mapM_keyText {keys : List Datum} (named : ∀ key ∈ keys, ∃ text, keyText key = .ok text) :
    keys.mapM keyText = .ok (keys.map Datum.display) := by
  induction keys with
  | nil => rfl
  | cons key keys ih =>
      rcases List.forall_mem_cons.1 named with ⟨⟨text, first⟩, others⟩
      rw [List.mapM_cons, first, ih others, List.map_cons, display_of_keyText first]
      rfl

/-- In what order a host goes through keys cannot be seen, if all of them have a text. -/
theorem fields_of_named (host other : Host)
    (named : ∀ key ∈ unexpected names entries, ∃ text, keyText key = .ok text) :
    @fields host place names (.map entries) = @fields other place names (.map entries) := by
  have visits (host : Host) : (host.visited (unexpected names entries)).mapM keyText =
      .ok ((host.visited (unexpected names entries)).map Datum.display) :=
    mapM_keyText fun key visited => named key ((host.visited_perm _).mem_iff.1 visited)
  have perm := (host.visited_perm (unexpected names entries)).trans
    (other.visited_perm (unexpected names entries)).symm
  unfold fields
  dsimp only
  rw [visits host, visits other]
  split
  · rfl
  · exact congrArg (fun texts => fail (.wrongFields place _ texts))
      (sortTexts_congr (perm.map Datum.display))

/-! ## Reasons of this library -/

/-- Every reason for a failure is about a value. -/
abbrev IsOwn (result : Except Invalid α) : Prop :=
  Outcome.FailsWith (fun reason => reason.ofValue = true) result

theorem word_isOwn {field : String} {value : Nat} : IsOwn (word field value) := by
  rw [word]
  split
  · exact .ok _
  · exact .error rfl

theorem height_isOwn {revision block : Nat} : IsOwn (Height.ofNumbers revision block) :=
  .bind word_isOwn fun _ _ => .bind word_isOwn fun _ _ => .ok _

theorem publicKey_isOwn {scheme : Scheme} {data : Bytes} :
    IsOwn (PublicKey.ofBytes scheme data) := by
  rw [PublicKey.ofBytes]
  split
  · exact .ok _
  · exact .error rfl

theorem signature_isOwn {scheme : Scheme} {data : Bytes} :
    IsOwn (Signature.ofBytes scheme data) := by
  rw [Signature.ofBytes]
  split
  · exact .ok _
  · exact .error rfl

theorem clientState_isOwn {latest : Height} {timestamp period drift : UInt64}
    {frozen : Option Height} :
    IsOwn (ClientState.ofFields latest timestamp period drift frozen) := by
  rw [ClientState.ofFields]
  split
  · exact .ok _
  · exact .error rfl

theorem validator_isOwn {account : String} {key : PublicKey} {stake : Nat} :
    IsOwn (Validator.ofFields account key stake) := by
  rw [Validator.ofFields]
  split
  · split
    · exact .ok _
    · exact .error rfl
  · exact .error rfl

theorem roster_isOwn {validators : List Validator} : IsOwn (Roster.ofValidators validators) := by
  rw [Roster.ofValidators]
  split
  · exact .error rfl
  · split
    · split
      · exact .ok _
      · exact .error rfl
    · exact .error rfl

/-! ## Many maps -/

/-- A reason that is not about a value is that of a key in the data. -/
def Traced (datum : Datum) (fault : FormFault) : Prop :=
  ∀ reason, fault = .invalid reason → reason.ofValue = false → datum.Unnamed reason

/-- Whatever ends the reading of data is traced to them. -/
abbrev Traces (read : Datum → Result α) : Prop :=
  ∀ datum, Outcome.FailsWith (Traced datum) (read datum)

theorem traced_decode {fault : DecodeFault} : Traced datum (.decode fault) := nofun

theorem traced_invalid (own : reason.ofValue = true) : Traced datum (.invalid reason) := by
  rintro _ ⟨⟩ other
  rw [own] at other
  cases other

theorem fail_traced {fault : DecodeFault} :
    Outcome.FailsWith (Traced datum) (fail fault : Result α) :=
  .error traced_decode

theorem checked_traced {result : Except Invalid α} (own : IsOwn result) :
    Outcome.FailsWith (Traced datum) (checked result) := by
  intro fault failed
  rcases Outcome.mapError_eq_error_iff.1 failed with ⟨reason, refused, rfl⟩
  exact traced_invalid (own reason refused)

theorem mem_of_lookup? {value : Datum} (found : Datum.lookup? name entries = some value) :
    (.text name, value) ∈ entries := by
  induction entries with
  | nil => cases found
  | cons entry entries ih =>
      rw [Datum.lookup?.eq_def] at found
      split at found
      · cases ‹_ :: _ = []›
      · next known held others equal =>
        cases equal
        split at found
        · next same =>
          cases found
          rw [same]
          exact List.mem_cons_self
        · exact List.mem_cons_of_mem _ (ih found)
      · next equal =>
        cases equal
        exact List.mem_cons_of_mem _ (ih found)

namespace Reading

theorem of_eq_invalid_iff [Host] :
    of place names datum = .error (.invalid reason) ↔ datum.FirstUnnamed names reason :=
  Outcome.map_eq_error_iff.trans fields_eq_invalid_iff

theorem of_traced [Host] : Outcome.FailsWith (Traced datum) (of place names datum) := by
  rintro _ failed reason rfl -
  exact (of_eq_invalid_iff.1 failed).unnamed

theorem get_zip_map (valueOf : String → Datum) (name : String) :
    (mk (names.zip (names.map valueOf))).get name = .null ∨
      (mk (names.zip (names.map valueOf))).get name = valueOf name := by
  induction names with
  | nil => exact Or.inl rfl
  | cons other names ih =>
      rw [List.map_cons, List.zip_cons_cons, get_cons]
      split
      · next same =>
        rw [same]
        exact Or.inr rfl
      · exact ih

/-- What is read of a map stands in it, unless it is no value. -/
theorem get_of_made [Host] (made : of place names datum = .ok reading) (name : String) :
    reading.get name = .null ∨
      ∃ entries, datum = .map entries ∧ (.text name, reading.get name) ∈ entries := by
  rcases Outcome.map_eq_ok_iff.1 made with ⟨values, read, rfl⟩
  cases datum with
  | map entries =>
      rw [fields] at read
      split at read
      · cases read
        rcases get_zip_map (fun name => (Datum.lookup? name entries).getD .null) name with
          absent | present
        · exact Or.inl absent
        · rw [present]
          cases found : Datum.lookup? name entries with
          | none => exact Or.inl rfl
          | some value => exact Or.inr ⟨entries, rfl, mem_of_lookup? found⟩
      · rcases Outcome.bind_eq_ok_iff.1 read with ⟨texts, -, ended⟩
        cases ended
  | _ => cases read

/-- A key without a text in a field is one in the map. -/
theorem unnamed_of_get [Host] (made : of place names datum = .ok reading) (name : String)
    (unnamed : (reading.get name).Unnamed reason) : datum.Unnamed reason := by
  rcases get_of_made made name with absent | ⟨entries, rfl, present⟩
  · rw [absent] at unnamed
    cases unnamed
  · exact .value present unnamed

theorem nat_traced : Outcome.FailsWith (Traced datum) (reading.nat name) := by
  rw [nat]
  split
  · split
    · exact .ok _
    · exact fail_traced
  · exact fail_traced

theorem bytes_traced : Outcome.FailsWith (Traced datum) (reading.bytes name) := by
  rw [bytes]
  split
  · exact .ok _
  · exact fail_traced

theorem hash_traced : Outcome.FailsWith (Traced datum) (reading.hash name) := by
  refine .bind bytes_traced fun data _ => ?_
  split
  · exact .ok _
  · exact fail_traced

theorem text_traced : Outcome.FailsWith (Traced datum) (reading.text name) := by
  rw [text]
  split
  · exact .ok _
  · exact .error (traced_invalid rfl)
  · exact fail_traced

theorem part_traced [Host] {read : Datum → Result α} (made : of place names datum = .ok reading)
    (traces : Traces read) : Outcome.FailsWith (Traced datum) (reading.part name read) := by
  intro fault failed reason equal other
  exact unnamed_of_get made name (traces _ fault failed reason equal other)

theorem list_traced [Host] {read : Datum → Result α} (made : of place names datum = .ok reading)
    (traces : Traces read) : Outcome.FailsWith (Traced datum) (reading.list name read) := by
  intro fault failed reason equal other
  rw [list] at failed
  split at failed
  · next items isList =>
    rcases Outcome.mapM_eq_error_iff.1 failed with ⟨before, item, after, split, -, failed⟩
    have among : item ∈ items := by
      rw [split]
      exact List.mem_append_right _ List.mem_cons_self
    have unnamed := traces item fault failed reason equal other
    refine unnamed_of_get made name ?_
    rw [isList]
    exact .item among unnamed
  · cases failed
    cases equal

theorem option_traced {read : Reading → String → Result α}
    (traced : Outcome.FailsWith (Traced datum) (read reading name)) :
    Outcome.FailsWith (Traced datum) (reading.option name read) := by
  rw [option]
  split
  · exact .ok _
  · exact .map traced

end Reading

theorem Traces.toOption {read : Datum → Result α} (traces : Traces read) :
    Traces (toOption read) := by
  intro datum
  rw [Fielded.toOption.eq_def]
  split
  · exact .ok _
  · exact .map (traces _)

theorem toScheme_traced {tag : Nat} : Outcome.FailsWith (Traced datum) (toScheme tag) := by
  rw [toScheme]
  split
  · exact .ok _
  · exact fail_traced

/-! ## Mended data -/

theorem mendedItems_eq_map (items : List Datum) : mendedItems items = items.map mended := by
  induction items with
  | nil => rfl
  | cons item items ih => rw [mendedItems, ih, List.map_cons]

theorem mendedEntries_eq_map (entries : List (Datum × Datum)) :
    mendedEntries entries = entries.map fun entry => (entry.1, mended entry.2) := by
  induction entries with
  | nil => rfl
  | cons entry entries ih => rw [mendedEntries, ih, List.map_cons]

/-- Keys are not mended. -/
theorem unnamed_of_mended (unnamed : (mended datum).Unnamed reason) : datum.Unnamed reason := by
  generalize equal : mended datum = whole at unnamed
  induction unnamed generalizing datum with
  | key among nameless =>
      cases datum with
      | map entries =>
          rw [mended, mendedEntries_eq_map] at equal
          cases equal
          rcases List.mem_map.1 among with ⟨entry, present, equal⟩
          cases equal
          exact .key present nameless
      | _ => cases equal
  | value among _ ih =>
      cases datum with
      | map entries =>
          rw [mended, mendedEntries_eq_map] at equal
          cases equal
          rcases List.mem_map.1 among with ⟨entry, present, equal⟩
          cases equal
          exact .value present (ih rfl)
      | _ => cases equal
  | item among _ ih =>
      cases datum with
      | list items =>
          rw [mended, mendedItems_eq_map] at equal
          cases equal
          rcases List.mem_map.1 among with ⟨item, present, equal⟩
          cases equal
          exact .item present (ih rfl)
      | _ => cases equal

/-! ## Every kind -/

open Reading Outcome

variable [Host]

theorem height_traces : Traces toHeight := by
  intro datum
  refine .bind of_traced fun _ _ => ?_
  refine .bind nat_traced fun _ _ => ?_
  refine .bind nat_traced fun _ _ => ?_
  exact checked_traced height_isOwn

theorem publicKey_traces : Traces toPublicKey := by
  intro datum
  refine .bind of_traced fun _ _ => ?_
  refine .bind nat_traced fun _ _ => ?_
  refine .bind toScheme_traced fun _ _ => ?_
  refine .bind bytes_traced fun _ _ => ?_
  exact checked_traced publicKey_isOwn

theorem signature_traces : Traces toSignature := by
  intro datum
  refine .bind of_traced fun _ _ => ?_
  refine .bind nat_traced fun _ _ => ?_
  refine .bind toScheme_traced fun _ _ => ?_
  refine .bind bytes_traced fun _ _ => ?_
  exact checked_traced signature_isOwn

theorem validator_traces : Traces toValidator := by
  intro datum
  refine .bind of_traced fun _ made => ?_
  refine .bind text_traced fun _ _ => ?_
  refine .bind (part_traced made publicKey_traces) fun _ _ => ?_
  refine .bind nat_traced fun _ _ => ?_
  exact checked_traced validator_isOwn

theorem roster_traces : Traces toRoster := by
  intro datum
  refine .bind of_traced fun _ made => ?_
  refine .bind (list_traced made validator_traces) fun _ _ => ?_
  exact checked_traced roster_isOwn

theorem clientState_traces : Traces toClientState := by
  intro datum
  refine .bind of_traced fun _ made => ?_
  refine .bind (part_traced made height_traces) fun _ _ => ?_
  refine .bind nat_traced fun _ _ => ?_
  refine .bind nat_traced fun _ _ => ?_
  refine .bind nat_traced fun _ _ => ?_
  refine .bind (part_traced made height_traces.toOption) fun _ _ => ?_
  refine .bind (checked_traced word_isOwn) fun _ _ => ?_
  refine .bind (checked_traced word_isOwn) fun _ _ => ?_
  refine .bind (checked_traced word_isOwn) fun _ _ => ?_
  exact checked_traced clientState_isOwn

theorem consensusState_traces : Traces toConsensusState := by
  intro datum
  refine .bind of_traced fun _ _ => ?_
  refine .bind nat_traced fun _ _ => ?_
  refine .bind hash_traced fun _ _ => ?_
  refine .bind hash_traced fun _ _ => ?_
  refine .bind hash_traced fun _ _ => ?_
  refine .bind hash_traced fun _ _ => ?_
  refine .bind hash_traced fun _ _ => ?_
  refine .bind (checked_traced word_isOwn) fun _ _ => ?_
  exact .ok _

theorem innerHeader_traces : Traces toInnerHeader := by
  intro datum
  refine .bind of_traced fun _ _ => ?_
  refine .bind nat_traced fun _ _ => ?_
  refine .bind hash_traced fun _ _ => ?_
  refine .bind hash_traced fun _ _ => ?_
  refine .bind hash_traced fun _ _ => ?_
  refine .bind hash_traced fun _ _ => ?_
  refine .bind nat_traced fun _ _ => ?_
  refine .bind hash_traced fun _ _ => ?_
  refine .bind hash_traced fun _ _ => ?_
  refine .bind (checked_traced word_isOwn) fun _ _ => ?_
  refine .bind (checked_traced word_isOwn) fun _ _ => ?_
  exact .ok _

theorem header_traces : Traces toHeader := by
  intro datum
  refine .bind of_traced fun _ made => ?_
  refine .bind hash_traced fun _ _ => ?_
  refine .bind hash_traced fun _ _ => ?_
  refine .bind (part_traced made innerHeader_traces) fun _ _ => ?_
  refine .bind hash_traced fun _ _ => ?_
  refine .bind (option_traced (list_traced made validator_traces)) fun _ _ => ?_
  refine .bind (list_traced made signature_traces.toOption) fun _ _ => ?_
  exact .ok _

theorem misbehaviour_traces : Traces toMisbehaviour := by
  intro datum
  refine .bind of_traced fun _ made => ?_
  refine .bind text_traced fun _ _ => ?_
  refine .bind (part_traced made height_traces) fun _ _ => ?_
  refine .bind (part_traced made header_traces) fun _ _ => ?_
  refine .bind (part_traced made header_traces) fun _ _ => ?_
  exact .ok _

theorem proofStep_traces : Traces toProofStep := by
  intro datum
  refine .bind of_traced fun _ _ => ?_
  refine .bind nat_traced fun _ _ => ?_
  split
  · exact fail_traced
  · refine .bind hash_traced fun _ _ => ?_
    exact .ok _

theorem proof_traces : Traces toProof := by
  intro datum
  refine .bind of_traced fun _ made => ?_
  refine .bind bytes_traced fun _ _ => ?_
  refine .bind (list_traced made proofStep_traces) fun _ _ => ?_
  exact .ok _

theorem parse_traces (kind : Kind) : Traces (parse kind) := by
  cases kind with
  | height => exact height_traces
  | clientState => exact clientState_traces
  | consensusState => exact consensusState_traces
  | header => exact header_traces
  | misbehaviour => exact misbehaviour_traces
  | proof => exact proof_traces
  | innerHeader => exact innerHeader_traces
  | proofStep => exact proofStep_traces
  | publicKey => exact publicKey_traces
  | signature => exact signature_traces
  | validator => exact validator_traces
  | roster => exact roster_traces

theorem read_traces (kind : Kind) : Traces (read kind) := by
  intro datum
  rw [read]
  split
  · split
    · next failed =>
      intro fault equal reason invalid other
      cases equal
      exact unnamed_of_mended (parse_traces kind _ _ failed reason invalid other)
    · exact .error (traced_invalid rfl)
  · exact parse_traces kind datum

end Fielded

end Finality
