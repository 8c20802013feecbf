import Finality.Proofs.Wire.Cbor.RoundTrip

/-!
# Field maps are read back

The field map of a value is plain data, and the value is made of it again, also after its
maps were sorted (`Fielded.Faithful`). Each kind has one lemma for both, put together from
those of its parts.
-/

namespace Finality

/-! ## Plain records -/

namespace Datum.Plain

variable {depth : Nat}

/-- Plain data may nest deeper than they do. -/
theorem mono {datum : Datum} {deeper : Nat} (plain : Plain depth datum) (below : depth ≤ deeper) :
    Plain deeper datum := by
  induction plain generalizing deeper with
  | null => exact .null
  | bool value => exact .bool value
  | int value =>
      obtain ⟨less, rfl⟩ : ∃ less, deeper = less + 1 := ⟨deeper - 1, by omega⟩
      exact .int value
  | text value => exact .text value
  | bytes value => exact .bytes value
  | list each ih =>
      obtain ⟨less, rfl⟩ : ∃ less, deeper = less + 1 := ⟨deeper - 1, by omega⟩
      exact .list fun item member => ih item member (by omega)
  | map keys each ih =>
      obtain ⟨less, rfl⟩ : ∃ less, deeper = less + 1 := ⟨deeper - 1, by omega⟩
      exact .map keys fun entry member => ih entry member (by omega)

/-- A record is one level deeper than its fields. -/
theorem record {parts : List (String × Datum)} (distinct : (parts.map (·.1)).Nodup)
    (each : ∀ part ∈ parts, Plain depth part.2) : Plain (depth + 1) (.record parts) := by
  refine .map (TextKeys.ofFields distinct) ?_
  intro entry member
  rcases List.mem_map.1 member with ⟨part, present, rfl⟩
  exact each part present

end Datum.Plain

namespace Fielded

variable {α β : Type}

/-! ## Reading the fields of a known record -/

@[simp] theorem ok_bind (value : α) (next : α → Result β) :
    ((Except.ok value : Result α) >>= next) = next value :=
  rfl

@[simp] theorem checked_ok (value : α) : checked (.ok value) = .ok value := rfl

namespace Reading

-- On a record whose data are known, reading a field is a computation.
attribute [simp] nat bytes hash text list part option

@[simp] theorem get_cons (other : String) (held : Datum) (values : List (String × Datum))
    (name : String) :
    (Reading.mk ((other, held) :: values)).get name =
      if other = name then held else (Reading.mk values).get name := by
  by_cases same : other = name <;> simp [get, same]

/-- Whatever is made of the named fields is made of the fields of the sorted record. -/
theorem bind_of_settled [Host] {place : String} {names : List String}
    {parts : List (String × Datum)} {next : Reading → Result α} {result : Result α}
    (named : parts.map (·.1) = names) (distinct : names.Nodup)
    (rest : next ⟨parts.map fun part => (part.1, part.2.settled)⟩ = result) :
    (Reading.of place names (Datum.settled (.record parts)) >>= next) = result := by
  rw [of_settled place named distinct]
  exact rest

end Reading

/-! ## Faithful field maps -/

/-- Field maps of a type are plain data of a depth, they are never the datum for no value, and
after sorting they make the same value again. -/
structure Faithful (depth : Nat) (write : α → Datum) (read : Datum → Result α) : Prop where
  plain : ∀ value, Datum.Plain depth (write value)
  present : ∀ value, (write value).settled ≠ .null
  reads : ∀ value, read (write value).settled = .ok value

variable {depth : Nat} {write : α → Datum} {read : Datum → Result α}

namespace Faithful

theorem mono (faithful : Faithful depth write read) {deeper : Nat} (below : depth ≤ deeper) :
    Faithful deeper write read where
  plain value := (faithful.plain value).mono below
  present := faithful.present
  reads := faithful.reads

/-- Different values have different field maps. -/
theorem injective (faithful : Faithful depth write read) : Function.Injective write := by
  intro left right equal
  have reads := faithful.reads left
  rw [equal, faithful.reads] at reads
  exact (Except.ok.inj reads).symm

theorem plain_option (faithful : Faithful depth write read) (value : Option α) :
    Datum.Plain depth (ofOption write value) := by
  cases value with
  | none => exact .null
  | some value => exact faithful.plain value

theorem plain_list (faithful : Faithful depth write read) (values : List α) :
    Datum.Plain (depth + 1) (.list (values.map write)) := by
  refine .list ?_
  intro item member
  rcases List.mem_map.1 member with ⟨value, -, rfl⟩
  exact faithful.plain value

theorem reads_option (faithful : Faithful depth write read) (value : Option α) :
    toOption read (ofOption write value).settled = .ok value := by
  cases value with
  | none => rfl
  | some value =>
      rw [ofOption, toOption, faithful.reads]
      · rfl
      · exact faithful.present value

theorem reads_list (faithful : Faithful depth write read) (values : List α) :
    (values.map (Datum.settled ∘ write)).mapM read = .ok values := by
  induction values with
  | nil => rfl
  | cons value values ih =>
      rw [List.map_cons, List.mapM_cons, ih, Function.comp_apply, faithful.reads]
      rfl

/-- In a list, no value may stand in the place of any item. -/
theorem reads_options (faithful : Faithful depth write read) (values : List (Option α)) :
    (values.map (Datum.settled ∘ ofOption write)).mapM (toOption read) = .ok values := by
  induction values with
  | nil => rfl
  | cons value values ih =>
      rw [List.map_cons, List.mapM_cons, ih, Function.comp_apply, faithful.reads_option]
      rfl

end Faithful

/-! ## Kinds of values -/

attribute [simp] ofWord ofHash Datum.nat

variable [Host]

theorem height_faithful : Faithful 2 ofHeight toHeight where
  plain height := by
    refine .record (by simp) ?_
    simp only [List.forall_mem_cons]
    exact ⟨.int _, .int _, nofun⟩
  present height := nofun
  reads height := by
    refine Reading.bind_of_settled rfl (by decide) ?_
    simp

theorem publicKey_faithful : Faithful 2 ofPublicKey toPublicKey where
  plain key := by
    refine .record (by simp) ?_
    simp only [List.forall_mem_cons]
    exact ⟨.int _, .bytes _, nofun⟩
  present key := nofun
  reads key := by
    refine Reading.bind_of_settled rfl (by decide) ?_
    simp [toScheme]

theorem signature_faithful : Faithful 2 ofSignature toSignature where
  plain signature := by
    refine .record (by simp) ?_
    simp only [List.forall_mem_cons]
    exact ⟨.int _, .bytes _, nofun⟩
  present signature := nofun
  reads signature := by
    refine Reading.bind_of_settled rfl (by decide) ?_
    simp [toScheme]

theorem validator_faithful : Faithful 3 ofValidator toValidator where
  plain validator := by
    refine .record (by simp) ?_
    simp only [List.forall_mem_cons]
    exact ⟨.text _, publicKey_faithful.plain _, .int _, nofun⟩
  present validator := nofun
  reads validator := by
    refine Reading.bind_of_settled rfl (by decide) ?_
    simp [publicKey_faithful.reads]

theorem clientState_faithful : Faithful 3 ofClientState toClientState where
  plain state := by
    refine .record (by simp) ?_
    simp only [List.forall_mem_cons]
    exact ⟨height_faithful.plain _, .int _, .int _, .int _, height_faithful.plain_option _, nofun⟩
  present state := nofun
  reads state := by
    refine Reading.bind_of_settled rfl (by decide) ?_
    simp [height_faithful.reads, height_faithful.reads_option]

theorem consensusState_faithful : Faithful 2 ofConsensusState toConsensusState where
  plain state := by
    refine .record (by simp) ?_
    simp only [List.forall_mem_cons]
    exact ⟨.int _, .bytes _, .bytes _, .bytes _, .bytes _, .bytes _, nofun⟩
  present state := nofun
  reads state := by
    refine Reading.bind_of_settled rfl (by decide) ?_
    simp

theorem innerHeader_faithful : Faithful 2 ofInnerHeader toInnerHeader where
  plain inner := by
    refine .record (by simp) ?_
    simp only [List.forall_mem_cons]
    exact ⟨.int _, .bytes _, .bytes _, .bytes _, .bytes _, .int _, .bytes _, .bytes _, nofun⟩
  present inner := nofun
  reads inner := by
    refine Reading.bind_of_settled rfl (by decide) ?_
    simp

theorem header_faithful : Faithful 5 ofHeader toHeader where
  plain header := by
    refine .record (by simp) ?_
    simp only [List.forall_mem_cons]
    refine ⟨.bytes _, .bytes _, (innerHeader_faithful.plain _).mono (by decide), .bytes _, ?_,
      .list ?_, nofun⟩
    · cases header.validators with
      | none => exact .null
      | some validators => exact validator_faithful.plain_list validators
    · intro item member
      rcases List.mem_map.1 member with ⟨approval, -, rfl⟩
      exact (signature_faithful.plain_option approval).mono (by decide)
  present header := nofun
  reads header := by
    refine Reading.bind_of_settled rfl (by decide) ?_
    rcases header with ⟨_, _, inner, _, _ | validators, approvals⟩ <;>
      simp [innerHeader_faithful.reads, ofValidators, ofOption, validator_faithful.reads_list,
        signature_faithful.reads_options, Except.map]

theorem misbehaviour_faithful : Faithful 6 ofMisbehaviour toMisbehaviour where
  plain misbehaviour := by
    refine .record (by simp) ?_
    simp only [List.forall_mem_cons]
    exact ⟨.text _, (height_faithful.plain _).mono (by decide), header_faithful.plain _,
      header_faithful.plain _, nofun⟩
  present misbehaviour := nofun
  reads misbehaviour := by
    refine Reading.bind_of_settled rfl (by decide) ?_
    simp [height_faithful.reads, header_faithful.reads]

theorem proofStep_faithful : Faithful 2 ofProofStep toProofStep where
  plain step := by
    refine .record (by simp) ?_
    simp only [List.forall_mem_cons]
    exact ⟨.bytes _, .int _, nofun⟩
  present step := nofun
  reads step := by
    refine Reading.bind_of_settled rfl (by decide) ?_
    simp

theorem proof_faithful : Faithful 4 ofProof toProof where
  plain proof := by
    refine .record (by simp) ?_
    simp only [List.forall_mem_cons]
    exact ⟨.bytes _, proofStep_faithful.plain_list _, nofun⟩
  present proof := nofun
  reads proof := by
    refine Reading.bind_of_settled rfl (by decide) ?_
    simp [proofStep_faithful.reads_list]

theorem roster_faithful : Faithful 5 ofRoster toRoster where
  plain roster := by
    refine .record (by simp) ?_
    simp only [List.forall_mem_cons]
    exact ⟨validator_faithful.plain_list _, nofun⟩
  present roster := nofun
  reads roster := by
    refine Reading.bind_of_settled rfl (by decide) ?_
    have made : Roster.ofValidators roster.validators = .ok roster :=
      Roster.ofValidators_eq_ok_iff.2 rfl
    simp [ofValidators, validator_faithful.reads_list, made]

/-- The field map of every value is plain data, and the value is made of it again. -/
theorem faithful_fields (kind : Kind) :
    Faithful 6 (fun content => Value.fields ⟨kind, content⟩) (parse kind) := by
  cases kind with
  | height => exact height_faithful.mono (by decide)
  | clientState => exact clientState_faithful.mono (by decide)
  | consensusState => exact consensusState_faithful.mono (by decide)
  | header => exact header_faithful.mono (by decide)
  | misbehaviour => exact misbehaviour_faithful
  | proof => exact proof_faithful.mono (by decide)
  | innerHeader => exact innerHeader_faithful.mono (by decide)
  | proofStep => exact proofStep_faithful.mono (by decide)
  | publicKey => exact publicKey_faithful.mono (by decide)
  | signature => exact signature_faithful.mono (by decide)
  | validator => exact validator_faithful.mono (by decide)
  | roster => exact roster_faithful.mono (by decide)

end Fielded

end Finality
