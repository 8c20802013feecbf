import Finality.Cli.Command
import Finality.Host.Standard
import Finality.Proofs.Chain.KeyText
import Finality.Proofs.Cli.RosterFile
import Finality.Proofs.Config.Loading
import Finality.Proofs.Json.Values
import Finality.Proofs.Number.Integer

/-!
# The commitment of a roster file

What the program prints for a roster file, and how it ends where it prints nothing
(`commitment_outcome`): with a fault of usage, unless the content is one that
`RosterFile.Escapes` lists. Every roster can be written into a file, in any layout, and the
program then prints the commitment of that roster (`Roster.holds_toFile`).
-/

namespace Finality

/-! ## Writing rosters -/

/-- A text that is written as it is, by its codes. -/
def Datum.spelled (text : String) : Datum := .brokenText (text.toList.map Char.toNat)

namespace Validator

/-- What a file says of a validator: its account, its key and its stake, each as a text. -/
def fields (validator : Validator) : List (String × String) :=
  [("account_id", validator.account), ("public_key", validator.key.text),
    ("stake", toString validator.stake.units)]

/-- The entry that is written for a validator. -/
def toEntry (validator : Validator) : Datum :=
  .record (validator.fields.map fun (name, text) => (name, .spelled text))

/-- What the entry for a validator is read as. -/
def asRead (validator : Validator) : Datum :=
  .record (validator.fields.map fun (name, text) => (name, .text text))

end Validator

/-- The text of a file with a roster. -/
def Roster.toFile (layout : Json.Layout) (roster : Roster) : String :=
  Json.render layout (.list (roster.validators.map Validator.toEntry))

namespace Json

theorem toList_codesText (text : String) :
    (codesText (text.toList.map Char.toNat)).toList = '"' :: written text ++ ['"'] := by
  rw [codesText, String.toList_ofList, List.flatMap_map]
  rfl

theorem reads_codesText {depth : Nat} (text : String) :
    Reads depth (codesText (text.toList.map Char.toNat)).toList (.text text) := by
  rw [toList_codesText, ← textOfCodes_units]
  exact .text (spells_written text)

end Json

namespace Validator

variable {layout : Json.Layout}

/-- The members of the entry for a validator, as they are written. -/
def members (validator : Validator) : List Json.Member :=
  validator.fields.map fun (name, text) =>
    ⟨name, (Json.codesText (text.toList.map Char.toNat)).toList, .text text⟩

/-- The members are written in their order, which is the order of their names. -/
theorem arranged_members (layout : Json.Layout) (account key stake : String) :
    layout.arranged [("account_id", account), ("public_key", key), ("stake", stake)] =
      [("account_id", account), ("public_key", key), ("stake", stake)] := by
  rw [Json.Layout.arranged]
  split
  · have first : ¬"public_key" < "account_id" := by decide
    have second : ¬"stake" < "account_id" := by decide
    have third : ¬"stake" < "public_key" := by decide
    simp [Json.insertMember, first, second, third]
  · rfl

theorem write_toEntry (layout : Json.Layout) (depth : Nat) (validator : Validator) :
    layout.write depth validator.toEntry =
      layout.bracketed "\x7b" "\x7d" depth
        (validator.fields.map fun (name, text) =>
          Json.quotedText name ++ layout.colon ++ Json.codesText (text.toList.map Char.toNat)) := by
  rw [toEntry, Datum.record, Json.Layout.write]
  simp only [fields, List.map_cons, List.map_nil, Json.Layout.writeMembers, Json.memberName,
    Datum.display, Datum.spelled, Json.Layout.write]
  rw [arranged_members]
  simp only [List.map_cons, List.map_nil]

theorem toList_parts (layout : Json.Layout) (validator : Validator) :
    (validator.fields.map fun (name, text) =>
        Json.quotedText name ++ layout.colon ++ Json.codesText (text.toList.map Char.toNat)).map
          String.toList =
      validator.members.map (Json.Member.text layout.colon.toList) := by
  have plain : ∀ name ∈ ["account_id", "public_key", "stake"],
      (Json.quotedText name).toList = '"' :: Json.written name ++ ['"'] := by decide
  have names : validator.fields.map Prod.fst = ["account_id", "public_key", "stake"] := rfl
  rw [members, List.map_map, List.map_map]
  refine List.map_congr_left fun field among => ?_
  rcases field with ⟨name, text⟩
  have named := plain name (names ▸ List.mem_map_of_mem among)
  simp only [Function.comp_apply, String.toList_append, named, Json.Member.text,
    List.append_assoc]

/-- The names of the members differ, so each has an entry of its own. -/
theorem map_foldl_insert (validator : Validator) :
    Datum.map (validator.members.foldl Json.Member.insert []) = validator.asRead := by
  simp [members, fields, asRead, Datum.record, Json.Member.insert, Datum.insertEntry,
    Datum.sameKey]

/-- The entry that is written for a validator is read as its fields. -/
theorem reads_toEntry (legible : layout.IsLegible) (depth : Nat) (validator : Validator) :
    Json.Reads 1 (layout.write depth validator.toEntry).toList validator.asRead := by
  have nonempty : (validator.fields.map fun (name, text) =>
      Json.quotedText name ++ layout.colon ++ Json.codesText (text.toList.map Char.toNat)) ≠ [] :=
    List.cons_ne_nil _ _
  have reads : ∀ member ∈ validator.members, Json.Reads 0 member.chars member.datum := by
    intro member among
    rcases List.mem_map.1 among with ⟨⟨name, text⟩, -, rfl⟩
    dsimp only
    exact Json.reads_codesText text
  rcases legible.bracketed "\x7b" "\x7d" depth nonempty with
    ⟨before, comma, after, isBefore, isComma, isAfter, equal⟩
  have filled : validator.members ≠ [] := List.cons_ne_nil _ _
  rw [write_toEntry, equal, toList_parts, ← map_foldl_insert]
  exact Json.Reads.map filled reads isBefore legible.colon isComma isAfter

/-- A stake is written with few digits. -/
theorem units_lt_maxDigits (validator : Validator) :
    validator.stake.units < Nat.pow 10 Integer.maxDigits := by
  have small : capacity 16 ≤ Nat.pow 10 Integer.maxDigits := by decide +kernel
  exact Nat.lt_of_lt_of_le validator.stake.units_lt small

theorem isVoid_account (validator : Validator) :
    (Datum.text validator.account).isVoid = false := by
  cases filled : validator.account.toList with
  | nil => exact absurd (String.toList_eq_nil_iff.1 filled) validator.account_ne
  | cons char rest => simp only [Datum.isVoid, Datum.elements?, filled, List.map_cons]

theorem describes_asRead (validator : Validator) :
    RosterFile.Describes validator.asRead validator := by
  refine ⟨_, rfl, ?_⟩
  exact {
    account := rfl
    key := ⟨validator.key.text, rfl, PublicKey.parse_text validator.key⟩
    stake := ⟨.text (toString validator.stake.units), rfl,
      .literal (Integer.read_toString validator.units_lt_maxDigits)⟩
    filled := validator.isVoid_account
    bounded := validator.stake.units_lt }

end Validator

namespace Roster

variable {layout : Json.Layout}

theorem writeItems_eq_map (layout : Json.Layout) (depth : Nat) (items : List Datum) :
    layout.writeItems depth items = items.map (layout.write depth) := by
  induction items with
  | nil => rfl
  | cons item items ih => rw [Json.Layout.writeItems, ih, List.map_cons]

theorem reads_toFile (legible : layout.IsLegible) (roster : Roster) :
    Json.Reads 2 (roster.toFile layout).toList
      (.list (roster.validators.map Validator.asRead)) := by
  have nonempty : (roster.validators.map Validator.toEntry).map (layout.write 1) ≠ [] :=
    mt (fun empty => List.map_eq_nil_iff.1 (List.map_eq_nil_iff.1 empty)) roster.validators_ne_nil
  let item (validator : Validator) : List Char × Datum :=
    ((layout.write 1 validator.toEntry).toList, validator.asRead)
  have reads : ∀ part ∈ roster.validators.map item, Json.Reads 1 part.1 part.2 := by
    intro part among
    rcases List.mem_map.1 among with ⟨validator, -, rfl⟩
    exact validator.reads_toEntry legible 1
  rcases legible.bracketed "[" "]" 0 nonempty with
    ⟨before, comma, after, isBefore, isComma, isAfter, equal⟩
  have list := Json.Reads.list (mt List.map_eq_nil_iff.1 roster.validators_ne_nil) reads isBefore
    isComma isAfter
  rw [List.map_map, List.map_map] at list
  rw [toFile, Json.render, Json.Layout.write, writeItems_eq_map, equal, List.map_map, List.map_map]
  exact list

/-- The file that is written for a roster holds that roster. -/
theorem holds_toFile [Host] (legible : layout.IsLegible) (roster : Roster) :
    RosterFile.Holds (utf8 (roster.toFile layout)) roster := by
  have read := (roster.reads_toFile legible).read_ofList Host.two_le_jsonDepth
  rw [String.ofList_toList] at read
  refine ⟨roster.toFile layout, _, ofUtf8?_utf8 _, read, ?_⟩
  rw [List.forall₂_map_left_iff]
  exact List.forall₂_same.2 fun validator _ => validator.describes_asRead

end Roster

/-! ## Runs -/

namespace Cli

/-- What is printed for a roster: its commitment, the number of its validators and their stake. -/
def summary (roster : Roster) : Datum :=
  .record [("commitment", .text (toHex0x roster.commitment.bytes)),
    ("validators", .nat roster.size), ("total_stake", .text (toString roster.total))]

section

variable {environment : Environment} {files : Files} {path : String} {content : Bytes}
  {config : Config}

theorem argumentsOf_commitment (plain : OptionSpec.isOption path = false) :
    argumentsOf Command.commitment.options true [path, "--json"] =
      .ok ⟨[("json", "")], [path]⟩ := by
  have unmarked : path ≠ "--" := by
    rintro rfl
    cases plain
  rw [argumentsOf, OptionSpec.read, if_neg unmarked, if_neg (Bool.eq_false_iff.1 plain),
    if_pos rfl]
  rfl

/-- The command is found, and its arguments are taken apart. -/
theorem run_commitment [Host] (loads : Config.load environment = .ok config)
    (plain : OptionSpec.isOption path = false) (held : contentAt files path = .ok content) :
    run environment files ["commitment", path, "--json"] = commitment path content true := by
  have common : argumentsOf Command.commonOptions false ["commitment", path, "--json"] =
      .ok ⟨[], ["commitment", path, "--json"]⟩ := rfl
  have command : Command.commitment.run config files ⟨[("json", "")], [path]⟩ =
      contentAt files path >>= fun content => commitment path content true := rfl
  have whole : run environment files ["commitment", path, "--json"] =
      (Config.load environment).mapError .config >>= fun config =>
        argumentsOf Command.commitment.options true [path, "--json"] >>= fun arguments =>
          if arguments.has Command.helpOption.name then silent
          else Command.commitment.run config files arguments := rfl
  rw [whole, loads, argumentsOf_commitment plain]
  exact command.trans (congrArg (· >>= fun content => commitment path content true) held)

end

/-- What the program prints for a roster, and its exit code. -/
def shown (roster : Roster) : Finished :=
  ⟨0, Display.textLines (Json.render Json.Layout.lines (summary roster))⟩

section

variable {path : String} {content : Bytes}

theorem commitment_eq_bind [Host] :
    commitment path content true =
      (RosterFile.read content).mapError Stop.roster >>= fun roster => .ok (shown roster) :=
  rfl

theorem commitment_eq_ok_iff [Host] {finished : Finished} :
    commitment path content true = .ok finished ↔
      ∃ roster, RosterFile.Holds content roster ∧ finished = shown roster := by
  rw [commitment_eq_bind, Outcome.bind_eq_ok_iff]
  constructor
  · rintro ⟨roster, read, printed⟩
    cases printed
    exact ⟨roster, RosterFile.read_eq_ok_iff.1 (Outcome.mapError_eq_ok_iff.1 read), rfl⟩
  · rintro ⟨roster, holds, rfl⟩
    exact ⟨roster, Outcome.mapError_eq_ok_iff.2 (RosterFile.read_eq_ok_iff.2 holds), rfl⟩

theorem commitment_eq_error_iff [Host] {stop : Stop} :
    commitment path content true = .error stop ↔
      ∃ fault, RosterFile.read content = .error fault ∧ stop = .roster fault := by
  rw [commitment_eq_bind, Outcome.bind_eq_error_iff, Outcome.mapError_eq_error_iff]
  constructor
  · rintro (⟨fault, failed, rfl⟩ | ⟨roster, -, printed⟩)
    · exact ⟨fault, failed, rfl⟩
    · cases printed
  · rintro ⟨fault, failed, rfl⟩
    exact Or.inl ⟨fault, failed, rfl⟩

end

/-- The program is asked for the commitment of a file. It prints that of the roster that the file
holds, with the number of its validators and their stake; and every roster can be written into
a file that holds it. A file that holds none ends the run with exit code 2 and a text, unless its
content is one that escapes, and these end it otherwise. -/
theorem commitment_outcome [Host] {environment : Environment} {files : Files} {path : String}
    {content : Bytes} {config : Config} (loads : Config.load environment = .ok config)
    (plain : OptionSpec.isOption path = false) (held : contentAt files path = .ok content) :
    (∀ finished, run environment files ["commitment", path, "--json"] = .ok finished ↔
      ∃ roster, RosterFile.Holds content roster ∧ finished = shown roster) ∧
    (∀ roster layout, Json.Layout.IsLegible layout → content = utf8 (roster.toFile layout) →
      run environment files ["commitment", path, "--json"] = .ok (shown roster)) ∧
    (∀ stop, run environment files ["commitment", path, "--json"] = .error stop →
      ∃ fault, stop = .roster fault ∧
        (((∃ message, fault.message? = some message) ∧ stop.exit = 2) ∨
          RosterFile.Escapes content fault)) ∧
    ∀ fault, RosterFile.Escapes content fault →
      run environment files ["commitment", path, "--json"] = .error (.roster fault) ∧
        fault.message? = none ∧ (Stop.roster fault).exit = 1 := by
  rw [run_commitment loads plain held]
  refine ⟨fun finished => commitment_eq_ok_iff, ?_, ?_, ?_⟩
  · rintro roster layout legible rfl
    exact commitment_eq_ok_iff.2 ⟨roster, roster.holds_toFile legible, rfl⟩
  · intro stop failed
    rcases commitment_eq_error_iff.1 failed with ⟨fault, refused, rfl⟩
    refine ⟨fault, rfl, ?_⟩
    cases told : fault.message? with
    | none => exact Or.inr (RosterFile.read_escapes_iff.1 ⟨refused, told⟩)
    | some message =>
        refine Or.inl ⟨⟨message, rfl⟩, ?_⟩
        rw [Stop.exit, told]
        rfl
  · intro fault escapes
    rcases RosterFile.read_escapes_iff.2 escapes with ⟨failed, silent⟩
    refine ⟨commitment_eq_error_iff.2 ⟨fault, failed, rfl⟩, silent, ?_⟩
    rw [Stop.exit, silent]
    rfl

/-! ## Two files -/

attribute [local instance] Host.standard

namespace Sample

/-- Every path leads to a file with the same content. -/
def holding (content : Bytes) : Files := fun _ => some (.file content)

/-- A file in which the key of a validator is a number. -/
def keyless : Bytes :=
  utf8 "[\x7b\"account_id\":\"a\",\"public_key\":5,\"stake\":1\x7d]"

theorem keyless_refused : (RosterFile.read keyless matches .error .keyNotText) = true := by
  decide +kernel

theorem read_keyless : RosterFile.read keyless = .error .keyNotText := by
  have refused := keyless_refused
  split at refused
  · next equal => exact equal
  · cases refused

/-- A roster of one validator with all the stake. -/
def single : Roster where
  validators := [⟨"alice", ⟨.ed25519, List.replicate 32 7, rfl⟩, ⟨5, by decide⟩, by decide⟩]
  staked := by decide
  writable := rfl

end Sample

/-- A key that is a number ends the run neither with a commitment nor as a matter of usage. -/
theorem number_as_key_escapes :
    run [] (Sample.holding Sample.keyless) ["commitment", "FILE", "--json"] =
        .error (.roster .keyNotText) ∧
      (Stop.roster .keyNotText).exit ≠ 2 := by
  have held : contentAt (Sample.holding Sample.keyless) "FILE" = .ok Sample.keyless := rfl
  rw [run_commitment rfl rfl held]
  exact ⟨commitment_eq_error_iff.2 ⟨_, Sample.read_keyless, rfl⟩, by decide⟩

/-- The file of a roster of one validator, as it is written on one line. -/
theorem commitment_outcome_sample :
    run [] (Sample.holding (utf8 (Sample.single.toFile .spaced))) ["commitment", "FILE", "--json"] =
      .ok (shown Sample.single) := by
  have loads : Config.load [] = .ok Config.standard := rfl
  have plain : OptionSpec.isOption "FILE" = false := rfl
  have held : contentAt (Sample.holding (utf8 (Sample.single.toFile .spaced))) "FILE" =
      .ok (utf8 (Sample.single.toFile .spaced)) := rfl
  exact (commitment_outcome loads plain held).2.1 Sample.single .spaced
    Json.Layout.spaced_isLegible rfl

end Cli

end Finality
