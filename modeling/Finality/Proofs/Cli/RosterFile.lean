import Finality.Cli.RosterFile
import Finality.Proofs.Outcome
import Mathlib.Data.List.Forall2

/-!
# What roster files stand for

The content of a roster file stands for a roster exactly if it is a JSON list in which every
entry is an object that describes the validator at its place (`RosterFile.read_eq_ok_iff`). Where
no roster is read, the fault has a text of its own, apart from the contents that
`RosterFile.Escapes` lists (`RosterFile.read_escapes_iff`): values nested too deeply, a key or
an account that is no text, and an infinite stake.
-/

namespace Finality.RosterFile

/-! ## Entries -/

/-- What may stand for a whole number of stake. -/
inductive IsStake : Datum → Int → Prop where
  | integer (value : Int) : IsStake (.int value) value
  | truth (value : Bool) : IsStake (.bool value) (if value then 1 else 0)
  | truncated {value : Binary64} {number : Int} :
      value.truncate? = some number → IsStake (.float value) number
  | literal {text : String} {number : Int} :
      Integer.read .decimal text.toList = .ok number → IsStake (.text text) number

/-- Members give a validator, whose account may be anything that is not empty. -/
structure MembersGive (members : List (Datum × Datum)) (draft : Draft) : Prop where
  account : Datum.lookup? "account_id" members = some draft.account
  key : ∃ text, Datum.lookup? "public_key" members = some (.text text) ∧
    PublicKey.parse text = .ok draft.key
  stake : ∃ datum, Datum.lookup? "stake" members = some datum ∧ IsStake datum draft.stake
  filled : draft.account.isVoid = false
  bounded : draft.stake < capacity 16

/-- An entry is an object whose members give a validator. -/
def Gives (entry : Datum) (draft : Draft) : Prop :=
  ∃ members, entry = .map members ∧ MembersGive members draft

/-- An entry ends the whole file: its key is no text, or its stake is infinite. -/
inductive StopsFile : Datum → RosterFileFault → Prop where
  | key {members : List (Datum × Datum)} {account key : Datum} :
      Datum.lookup? "account_id" members = some account →
        Datum.lookup? "public_key" members = some key → key.isText = false →
          StopsFile (.map members) .keyNotText
  | stake {members : List (Datum × Datum)} {account : Datum} {text : String} {key : PublicKey}
      {value : Binary64} : Datum.lookup? "account_id" members = some account →
        Datum.lookup? "public_key" members = some (.text text) →
          PublicKey.parse text = .ok key →
            Datum.lookup? "stake" members = some (.float value) → value.isInfinite = true →
              StopsFile (.map members) .infiniteStake

section

variable {entry datum : Datum} {members : List (Datum × Datum)} {name : String} {number : Int}
  {fault : RosterFileFault} {publicKey : PublicKey} {made : Draft}

/-- Every number has an integer part but the infinite ones and what is no number. -/
theorem truncate?_eq_none_iff {value : Binary64} :
    value.truncate? = none ↔ value.isNaN = true ∨ value.isInfinite = true := by
  rw [Binary64.truncate?, Binary64.isNaN, Binary64.isInfinite]
  by_cases special : value.exponentBits = 2047
  · by_cases zero : value.fractionBits = 0 <;> simp [special, zero]
  · simp [special]

theorem not_isNaN_of_isInfinite {value : Binary64} (infinite : value.isInfinite = true) :
    ¬value.isNaN = true := by
  rw [Binary64.isInfinite, Bool.and_eq_true, beq_iff_eq, beq_iff_eq] at infinite
  rw [Binary64.isNaN, infinite.2]
  simp

theorem member_eq_ok_iff :
    member name entry = .ok datum ↔
      ∃ members, entry = .map members ∧ Datum.lookup? name members = some datum := by
  constructor
  · intro found
    cases entry with
    | map members =>
        rw [member] at found
        split at found
        · next known =>
          cases found
          exact ⟨members, rfl, known⟩
        · cases found
    | _ => cases found
  · rintro ⟨members, rfl, known⟩
    rw [member, known]

theorem member_of_lookup? (known : Datum.lookup? name members = some datum) :
    member name (.map members) = .ok datum :=
  member_eq_ok_iff.2 ⟨members, rfl, known⟩

theorem member_not_stops : member name entry ≠ .error (.inr fault) := by
  intro failed
  cases entry with
  | map members =>
      rw [member] at failed
      split at failed <;> cases failed
  | _ => cases failed

theorem key_eq_ok_iff :
    key datum = .ok publicKey ↔
      ∃ text, datum = .text text ∧ PublicKey.parse text = .ok publicKey := by
  constructor
  · intro ran
    cases datum with
    | text text => exact ⟨text, rfl, Outcome.mapError_eq_ok_iff.1 ran⟩
    | _ => cases ran
  · rintro ⟨text, rfl, parsed⟩
    exact Outcome.mapError_eq_ok_iff.2 parsed

theorem key_stops_iff :
    key datum = .error (.inr fault) ↔ fault = .keyNotText ∧ datum.isText = false := by
  constructor
  · intro failed
    cases datum with
    | text text =>
        rcases Outcome.mapError_eq_error_iff.1 failed with ⟨cause, -, equal⟩
        cases equal
    | brokenText codes => cases failed
    | _ =>
        cases failed
        exact ⟨rfl, rfl⟩
  · rintro ⟨rfl, other⟩
    cases datum with
    | text text => cases other
    | brokenText codes => cases other
    | _ => rfl

theorem stake_eq_ok_iff : stake datum = .ok number ↔ IsStake datum number := by
  constructor
  · intro ran
    cases datum with
    | bool value =>
        cases ran
        exact .truth value
    | int value =>
        cases ran
        exact .integer _
    | float value =>
        rw [stake] at ran
        split at ran
        · cases ran
        · split at ran
          · next truncated =>
            cases ran
            exact .truncated truncated
          · cases ran
    | text text => exact .literal (Outcome.mapError_eq_ok_iff.1 ran)
    | _ => cases ran
  · intro stands
    cases stands with
    | integer value => rfl
    | truth value => rfl
    | truncated truncated =>
        rw [stake, truncated]
        refine if_neg fun undefined => ?_
        rw [truncate?_eq_none_iff.2 (Or.inl undefined)] at truncated
        cases truncated
    | literal read => exact Outcome.mapError_eq_ok_iff.2 read

theorem stake_stops_iff :
    stake datum = .error (.inr fault) ↔
      fault = .infiniteStake ∧ ∃ value, datum = .float value ∧ value.isInfinite = true := by
  constructor
  · intro failed
    cases datum with
    | float value =>
        rw [stake] at failed
        split at failed
        · cases failed
        · next defined =>
          split at failed
          · cases failed
          · next endless =>
            cases failed
            exact ⟨rfl, value, rfl, (truncate?_eq_none_iff.1 endless).resolve_left defined⟩
    | text text =>
        rcases Outcome.mapError_eq_error_iff.1 failed with ⟨cause, -, equal⟩
        cases equal
    | _ => cases failed
  · rintro ⟨rfl, value, rfl, infinite⟩
    rw [stake, if_neg (not_isNaN_of_isInfinite infinite),
      truncate?_eq_none_iff.2 (Or.inr infinite)]

/-- An entry is read in the order of its members, and what it gives is checked last. -/
theorem draft_eq_ok_iff : draft entry = .ok made ↔ Gives entry made := by
  constructor
  · intro ran
    rcases Outcome.bind_eq_ok_iff.1 ran with ⟨account, hasAccount, afterAccount⟩
    rcases Outcome.bind_eq_ok_iff.1 afterAccount with ⟨keyed, hasKey, afterMember⟩
    rcases Outcome.bind_eq_ok_iff.1 afterMember with ⟨key, keyRead, afterKey⟩
    rcases Outcome.bind_eq_ok_iff.1 afterKey with ⟨staked, hasStake, afterStake⟩
    rcases Outcome.bind_eq_ok_iff.1 afterStake with ⟨units, stakeRead, checked⟩
    rcases member_eq_ok_iff.1 hasAccount with ⟨members, rfl, named⟩
    rcases member_eq_ok_iff.1 hasKey with ⟨_, ⟨⟩, publicKey⟩
    rcases member_eq_ok_iff.1 hasStake with ⟨_, ⟨⟩, stake⟩
    rcases key_eq_ok_iff.1 keyRead with ⟨text, rfl, parsed⟩
    split at checked
    · cases checked
    · next filled =>
      split at checked
      · next bounded =>
        cases checked
        have whole : (units.toNat : Int) = units := Int.toNat_of_nonneg bounded.1
        refine ⟨members, rfl, named, ⟨text, publicKey, parsed⟩, ⟨staked, stake, ?_⟩,
          Bool.eq_false_iff.2 filled, ?_⟩
        · exact whole.symm ▸ stake_eq_ok_iff.1 stakeRead
        · have upper := bounded.2
          show units.toNat < capacity 16
          omega
      · cases checked
  · rintro ⟨members, rfl, gives⟩
    rcases gives.key with ⟨text, publicKey, parsed⟩
    rcases gives.stake with ⟨staked, stake, stands⟩
    have bounded := gives.bounded
    have keyRead := key_eq_ok_iff.2 ⟨text, rfl, parsed⟩
    rw [draft, Outcome.bind_of_ok (member_of_lookup? gives.account),
      Outcome.bind_of_ok (member_of_lookup? publicKey), Outcome.bind_of_ok keyRead,
      Outcome.bind_of_ok (member_of_lookup? stake),
      Outcome.bind_of_ok (stake_eq_ok_iff.2 stands),
      if_neg (Bool.eq_false_iff.1 gives.filled), if_pos ⟨by omega, by omega⟩]
    rfl

theorem draft_stops_iff : draft entry = .error (.inr fault) ↔ StopsFile entry fault := by
  constructor
  · intro failed
    rcases (Outcome.bind_eq_error_iff.1 failed).resolve_left member_not_stops with
      ⟨account, hasAccount, afterAccount⟩
    rcases (Outcome.bind_eq_error_iff.1 afterAccount).resolve_left member_not_stops with
      ⟨keyed, hasKey, afterMember⟩
    rcases member_eq_ok_iff.1 hasAccount with ⟨members, rfl, named⟩
    rcases member_eq_ok_iff.1 hasKey with ⟨_, ⟨⟩, publicKey⟩
    rcases Outcome.bind_eq_error_iff.1 afterMember with keyStops | ⟨key, keyRead, afterKey⟩
    · rcases key_stops_iff.1 keyStops with ⟨rfl, other⟩
      exact .key named publicKey other
    rcases key_eq_ok_iff.1 keyRead with ⟨text, rfl, parsed⟩
    rcases (Outcome.bind_eq_error_iff.1 afterKey).resolve_left member_not_stops with
      ⟨staked, hasStake, afterStake⟩
    rcases member_eq_ok_iff.1 hasStake with ⟨_, ⟨⟩, stake⟩
    rcases Outcome.bind_eq_error_iff.1 afterStake with stakeStops | ⟨units, -, checked⟩
    · rcases stake_stops_iff.1 stakeStops with ⟨rfl, value, rfl, infinite⟩
      exact .stake named publicKey parsed stake infinite
    · split at checked
      · cases checked
      · split at checked <;> cases checked
  · intro stops
    cases stops with
    | @key members account key named publicKey other =>
        rw [draft, Outcome.bind_of_ok (member_of_lookup? named),
          Outcome.bind_of_ok (member_of_lookup? publicKey)]
        exact Outcome.bind_of_error (key_stops_iff.2 ⟨rfl, other⟩)
    | @stake members account text key value named publicKey parsed stake infinite =>
        have keyRead := key_eq_ok_iff.2 ⟨text, rfl, parsed⟩
        rw [draft, Outcome.bind_of_ok (member_of_lookup? named),
          Outcome.bind_of_ok (member_of_lookup? publicKey), Outcome.bind_of_ok keyRead,
          Outcome.bind_of_ok (member_of_lookup? stake)]
        exact Outcome.bind_of_error (stake_stops_iff.2 ⟨rfl, value, rfl, infinite⟩)

end

/-! ## Lists of entries -/

/-- What a validator looks like before its account is known to be a text. -/
def Draft.ofValidator (validator : Validator) : Draft :=
  ⟨.text validator.account, validator.key, validator.stake.units⟩

/-- An entry describes a validator. -/
def Describes (entry : Datum) (validator : Validator) : Prop :=
  Gives entry (Draft.ofValidator validator)

section

variable {entry : Datum} {entries : List Datum} {index : Nat} {fault : RosterFileFault}
  {made : List Draft} {given : Draft} {described : Validator} {found : Roster}

theorem StopsFile.message? (stops : StopsFile entry fault) : fault.message? = none := by
  cases stops <;> rfl

theorem drafts_eq_ok_iff :
    drafts index entries = .ok made ↔ List.Forall₂ Gives entries made := by
  induction entries generalizing index made with
  | nil =>
      rw [List.forall₂_nil_left_iff]
      constructor
      · intro ran
        cases ran
        rfl
      · rintro rfl
        rfl
  | cons entry entries ih =>
      rw [drafts]
      constructor
      · intro ran
        split at ran
        · cases ran
        · cases ran
        · next first passed =>
          cases rest : drafts (index + 1) entries with
          | error fault =>
              rw [rest] at ran
              cases ran
          | ok others =>
              rw [rest] at ran
              cases ran
              exact .cons (draft_eq_ok_iff.1 passed) (ih.1 rest)
      · intro all
        cases all with
        | cons gives others =>
            rw [draft_eq_ok_iff.2 gives, ih.2 others]
            rfl

/-- Reading entries ends without a text at the first entry that ends the whole file, if all entries
before it are read. -/
theorem drafts_escape_iff :
    drafts index entries = .error fault ∧ fault.message? = none ↔
      ∃ before entry after, entries = before ++ entry :: after ∧
        (∀ other ∈ before, ∃ given, Gives other given) ∧ StopsFile entry fault := by
  induction entries generalizing index with
  | nil =>
      constructor
      · rintro ⟨ran, -⟩
        cases ran
      · rintro ⟨before, entry, after, equal, -⟩
        cases (List.append_eq_nil_iff.1 equal.symm).2
  | cons entry entries ih =>
      rw [drafts]
      constructor
      · rintro ⟨ran, silent⟩
        split at ran
        · cases ran
          cases silent
        · next stops =>
          cases ran
          exact ⟨[], entry, entries, rfl, fun _ member => absurd member List.not_mem_nil,
            draft_stops_iff.1 stops⟩
        · next first passed =>
          rcases ih.1 ⟨Outcome.map_eq_error_iff.1 ran, silent⟩ with
            ⟨before, other, after, rfl, passes, stops⟩
          exact ⟨entry :: before, other, after, rfl,
            List.forall_mem_cons.2 ⟨⟨first, draft_eq_ok_iff.1 passed⟩, passes⟩, stops⟩
      · rintro ⟨before, other, after, equal, passes, stops⟩
        refine ⟨?_, stops.message?⟩
        cases before with
        | nil =>
            cases equal
            rw [draft_stops_iff.2 stops]
        | cons first before =>
            cases equal
            rcases List.forall_mem_cons.1 passes with ⟨⟨given, gives⟩, passes⟩
            rw [draft_eq_ok_iff.2 gives]
            exact Outcome.map_eq_error_iff.2 (ih.2 ⟨before, other, after, rfl, passes, stops⟩).1

/-! ## Rosters -/

theorem validator_eq_ok_iff :
    validator given = .ok described ↔ given = Draft.ofValidator described := by
  constructor
  · intro ran
    rcases given with ⟨account, key, stake⟩
    rw [validator] at ran
    split at ran
    · next text isText =>
      have isText : account = .text text := isText
      subst isText
      have made := Outcome.mapError_eq_ok_iff.1 ran
      rw [Validator.ofFields] at made
      split at made
      · split at made
        · cases made
          rfl
        · cases made
      · cases made
    · cases ran
    · cases ran
  · rintro rfl
    exact Outcome.mapError_eq_ok_iff.2 (Validator.ofFields_fields described)

theorem validator_escapes_iff :
    validator given = .error fault ∧ fault.message? = none ↔
      fault = .accountNotText ∧ given.account.isText = false := by
  rw [validator]
  constructor
  · rintro ⟨failed, silent⟩
    split at failed
    · rcases Outcome.mapError_eq_error_iff.1 failed with ⟨reason, -, rfl⟩
      cases silent
    · cases failed
      cases silent
    · next noText noBroken =>
      cases failed
      refine ⟨rfl, ?_⟩
      cases account : given.account with
      | text value => exact absurd account (noText value)
      | brokenText codes => exact absurd account (noBroken codes)
      | _ => rfl
  · rintro ⟨rfl, other⟩
    refine ⟨?_, rfl⟩
    split
    · next account =>
      rw [account] at other
      cases other
    · next account =>
      rw [account] at other
      cases other
    · rfl

/-- There are entries, and one of them has stake. -/
def IsStaked (made : List Draft) : Prop := ∃ given ∈ made, given.stake ≠ 0

theorem all_stakeless_iff :
    (made.all fun given => decide (given.stake = 0)) = true ↔ ¬IsStaked made := by
  rw [List.all_eq_true]
  constructor
  · rintro stakeless ⟨given, member, staked⟩
    exact staked (of_decide_eq_true (stakeless given member))
  · intro unstaked given member
    refine decide_eq_true (not_not.1 fun staked => ?_)
    exact unstaked ⟨given, member, staked⟩

theorem IsStaked.ne_nil (staked : IsStaked made) : ¬made.isEmpty = true := by
  rcases staked with ⟨given, member, -⟩
  intro empty
  rw [List.isEmpty_iff.1 empty] at member
  exact List.not_mem_nil member

theorem roster_of_isStaked (staked : IsStaked made) :
    roster made = made.mapM validator >>= fun validators =>
      (Roster.ofValidators validators).mapError .invalid := by
  rw [roster, if_neg staked.ne_nil, if_neg fun stakeless => all_stakeless_iff.1 stakeless staked]

theorem roster_of_not_isStaked (unstaked : ¬IsStaked made) :
    ∃ reason, roster made = .error (.invalid reason) := by
  rw [roster]
  split
  · exact ⟨_, rfl⟩
  · exact ⟨_, if_pos (all_stakeless_iff.2 unstaked)⟩

theorem totalStake_eq_zero {validators : List Validator}
    (stakeless : ∀ validator ∈ validators, validator.stake.units = 0) :
    totalStake validators = 0 := by
  induction validators with
  | nil => rfl
  | cons validator validators ih =>
      rcases List.forall_mem_cons.1 stakeless with ⟨first, others⟩
      rw [totalStake, first, ih others]

theorem isStaked_ofValidators (roster : Roster) :
    IsStaked (roster.validators.map Draft.ofValidator) := by
  by_contra unstaked
  have stakeless : ∀ validator ∈ roster.validators, validator.stake.units = 0 := by
    intro validator member
    by_contra staked
    exact unstaked ⟨_, List.mem_map_of_mem member, staked⟩
  have staked := roster.staked
  rw [totalStake_eq_zero stakeless] at staked
  exact Nat.lt_irrefl 0 staked

theorem roster_eq_ok_iff :
    roster made = .ok found ↔ made = found.validators.map Draft.ofValidator := by
  constructor
  · intro ran
    by_cases staked : IsStaked made
    · rw [roster_of_isStaked staked] at ran
      rcases Outcome.bind_eq_ok_iff.1 ran with ⟨validators, passed, built⟩
      rw [Roster.ofValidators_eq_ok_iff.1 (Outcome.mapError_eq_ok_iff.1 built)]
      refine (Outcome.map_of_mapM_ok passed fun given _ described ran => ?_).symm
      exact (validator_eq_ok_iff.1 ran).symm
    · rcases roster_of_not_isStaked staked with ⟨reason, failed⟩
      cases failed.symm.trans ran
  · rintro rfl
    rw [roster_of_isStaked (isStaked_ofValidators found)]
    have passed := Outcome.mapM_map_ok (fun _ => validator_eq_ok_iff.2 rfl) found.validators
    rw [Outcome.bind_of_ok passed]
    exact Outcome.mapError_eq_ok_iff.2 (Roster.ofValidators_eq_ok_iff.2 rfl)

theorem roster_escapes_iff :
    roster made = .error fault ∧ fault.message? = none ↔
      fault = .accountNotText ∧ IsStaked made ∧
        ∃ before given after, made = before ++ given :: after ∧
          (∀ other ∈ before, ∃ validator, other = Draft.ofValidator validator) ∧
            given.account.isText = false := by
  constructor
  · rintro ⟨failed, silent⟩
    by_cases staked : IsStaked made
    · rw [roster_of_isStaked staked] at failed
      rcases Outcome.bind_eq_error_iff.1 failed with failed | ⟨validators, -, failed⟩
      · rcases Outcome.mapM_eq_error_iff.1 failed with ⟨before, given, after, split, passes, failed⟩
        rcases validator_escapes_iff.1 ⟨failed, silent⟩ with ⟨rfl, other⟩
        refine ⟨rfl, staked, before, given, after, split, fun other member => ?_, other⟩
        rcases passes other member with ⟨validator, passed⟩
        exact ⟨validator, validator_eq_ok_iff.1 passed⟩
      · rcases Outcome.mapError_eq_error_iff.1 failed with ⟨reason, -, rfl⟩
        cases silent
    · rcases roster_of_not_isStaked staked with ⟨reason, invalid⟩
      rw [invalid] at failed
      cases failed
      cases silent
  · rintro ⟨rfl, staked, before, given, after, rfl, passes, other⟩
    refine ⟨?_, rfl⟩
    rw [roster_of_isStaked staked]
    refine Outcome.bind_of_error (Outcome.mapM_eq_error_iff.2 ?_)
    refine ⟨before, given, after, rfl, fun other member => ?_,
      (validator_escapes_iff.2 ⟨rfl, other⟩).1⟩
    rcases passes other member with ⟨validator, equal⟩
    exact ⟨validator, validator_eq_ok_iff.2 equal⟩

end

/-! ## Contents -/

/-- The content of a file holds a roster: it is a JSON list of descriptions of its validators, in
their order. -/
def Holds [Host] (content : Bytes) (roster : Roster) : Prop :=
  ∃ text entries, ofUtf8? content = some text ∧
    Json.read Host.jsonDepth text = .ok (.list entries) ∧
      List.Forall₂ Describes entries roster.validators

/-- What the content of a file has to hold for reading it to end without a text. -/
inductive Escapes [Host] (content : Bytes) : RosterFileFault → Prop where
  | tooDeep {text : String} : ofUtf8? content = some text →
      Json.read Host.jsonDepth text = .error .tooDeep → Escapes content .tooDeep
  /-- The entries up to the one that ends the whole file give validators. -/
  | entry {text : String} {before after : List Datum} {entry : Datum} {fault : RosterFileFault} :
      ofUtf8? content = some text →
        Json.read Host.jsonDepth text = .ok (.list (before ++ entry :: after)) →
          (∀ other ∈ before, ∃ given, Gives other given) → StopsFile entry fault →
            Escapes content fault
  /-- All entries give validators, and the first of them with an account that makes none has one
  that is no text. -/
  | account {text : String} {entries : List Datum} {before after : List Draft} {given : Draft} :
      ofUtf8? content = some text →
        Json.read Host.jsonDepth text = .ok (.list entries) →
          List.Forall₂ Gives entries (before ++ given :: after) →
            IsStaked (before ++ given :: after) →
              (∀ other ∈ before, ∃ validator, other = Draft.ofValidator validator) →
                given.account.isText = false → Escapes content .accountNotText

section

variable {content : Bytes} {text : String} {entries : List Datum} {found : Roster}
  {fault : RosterFileFault}

theorem forall₂_gives_iff {validators : List Validator} :
    List.Forall₂ Gives entries (validators.map Draft.ofValidator) ↔
      List.Forall₂ Describes entries validators :=
  List.forall₂_map_right_iff

variable [Host]

theorem read_of_list (isText : ofUtf8? content = some text)
    (isList : Json.read Host.jsonDepth text = .ok (.list entries)) :
    read content = drafts 0 entries >>= roster := by
  rw [read, isText]
  simp only [isList]

/-- A roster is read exactly from the contents that hold it. -/
theorem read_eq_ok_iff : read content = .ok found ↔ Holds content found := by
  constructor
  · intro ran
    rw [read] at ran
    split at ran
    · cases ran
    · next text isText =>
      split at ran
      · cases ran
      · cases ran
      · next entries isList =>
        rcases Outcome.bind_eq_ok_iff.1 ran with ⟨made, gives, built⟩
        rw [drafts_eq_ok_iff, roster_eq_ok_iff.1 built, forall₂_gives_iff] at gives
        exact ⟨text, entries, isText, isList, gives⟩
      · cases ran
  · rintro ⟨text, entries, isText, isList, describes⟩
    rw [read_of_list isText isList]
    rw [Outcome.bind_of_ok (drafts_eq_ok_iff.2 (forall₂_gives_iff.2 describes))]
    exact roster_eq_ok_iff.2 rfl

/-- Reading ends with a fault that has no text exactly for the contents that escape. -/
theorem read_escapes_iff :
    read content = .error fault ∧ fault.message? = none ↔ Escapes content fault := by
  constructor
  · rintro ⟨failed, silent⟩
    rw [read] at failed
    split at failed
    · cases failed
      cases silent
    · next text isText =>
      split at failed
      · cases failed
        cases silent
      · next deep =>
        cases failed
        exact .tooDeep isText deep
      · next entries isList =>
        rcases Outcome.bind_eq_error_iff.1 failed with stops | ⟨made, gives, failed⟩
        · rcases drafts_escape_iff.1 ⟨stops, silent⟩ with
            ⟨before, entry, after, rfl, passes, stops⟩
          exact .entry isText isList passes stops
        · rcases roster_escapes_iff.1 ⟨failed, silent⟩ with
            ⟨rfl, staked, before, given, after, rfl, passes, other⟩
          exact .account isText isList (drafts_eq_ok_iff.1 gives) staked passes other
      · cases failed
        cases silent
  · intro escapes
    cases escapes with
    | @tooDeep text isText deep =>
        refine ⟨?_, rfl⟩
        rw [read, isText]
        simp only [deep]
    | @entry text before after entry _ isText isList passes stops =>
        rw [read_of_list isText isList]
        have ends := (@drafts_escape_iff (before ++ entry :: after) 0 fault).2
          ⟨before, entry, after, rfl, passes, stops⟩
        exact ⟨Outcome.bind_of_error ends.1, ends.2⟩
    | @account text entries before after given isText isList gives staked passes other =>
        rw [read_of_list isText isList, Outcome.bind_of_ok (drafts_eq_ok_iff.2 gives)]
        exact roster_escapes_iff.2 ⟨rfl, staked, before, given, after, rfl, passes, other⟩

end

end Finality.RosterFile
