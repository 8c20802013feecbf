import Finality.Chain.Approval
import Finality.Chain.Build
import Finality.Chain.KeyText
import Finality.Host
import Finality.Json.Reader
import Finality.Number.Integer
import Finality.Text.Utf8

/-!
# Roster files

A roster file is a JSON list of objects, one for each validator: `account_id`, a
`public_key` in its text form and a `stake` as a number or in decimal text. Entries are
read in order, and the roster is put together once all of them are read.
-/

namespace Finality

/-- Why an entry of a roster file is refused. -/
inductive EntryFault where
  /-- A member is missing. -/
  | missing (name : String)
  /-- The entry is no object. -/
  | notObject
  /-- The key holds an unpaired surrogate; the key is given by its codes. -/
  | brokenKey (codes : List Nat)
  /-- The key is not the text form of a key. -/
  | key (fault : KeyTextFault)
  /-- The stake is neither a number nor a text. -/
  | stakeType
  /-- The stake is a text, given by its codes, that is no integer. -/
  | stakeText (fault : IntegerFault) (codes : List Nat)
  /-- The stake is not a number. -/
  | stakeNaN
  /-- The members make no validator. -/
  | invalid (reason : Invalid)

/-- What is wrong with a key with an unpaired surrogate. No scheme has one in its name, and no
digit is one. -/
def EntryFault.brokenKeyMessage (codes : List Nat) : String :=
  let name := codes.takeWhile (· ≠ ':'.toNat)
  if name.length = codes.length then KeyTextFault.noColonMessage codes
  else
    match PublicKey.schemeOf? (String.ofList (name.map Char.ofNat)) with
    | some _ => notHexMessage
    | none => KeyTextFault.unknownSchemeMessage name

/-- The text of a fault. -/
def EntryFault.message : EntryFault → String
  | missing name => Text.quoted name
  | notObject => "an entry must be an object"
  | brokenKey codes => brokenKeyMessage codes
  | key fault => fault.message
  | stakeType => "a stake must be a number or a text"
  | stakeText fault codes => fault.message codes
  | stakeNaN => "cannot convert float NaN to integer"
  | invalid reason => reason.message

/-- Why a roster file makes no roster. -/
inductive RosterFileFault where
  /-- The file is no JSON text. -/
  | unreadable
  /-- The file holds values that are nested too deeply. -/
  | tooDeep
  /-- The file holds no list. -/
  | notList
  /-- An entry is refused. -/
  | entry (index : Nat) (fault : EntryFault)
  /-- The entries make no roster. -/
  | invalid (reason : Invalid)
  /-- A key is no text. -/
  | keyNotText
  /-- A stake is infinite. -/
  | infiniteStake
  /-- An account is no text. -/
  | accountNotText

/-- The text of a fault, where it is one of the file's content. -/
def RosterFileFault.message? : RosterFileFault → Option String
  | unreadable => some "cannot read validator file"
  | notList => some "validator file must hold a JSON list"
  | entry index fault => some ("entry " ++ toString index ++ ": " ++ fault.message)
  | invalid reason => some reason.message
  | tooDeep | keyNotText | infiniteStake | accountNotText => none

namespace RosterFile

/-- A validator as an entry gives it: its account has not been looked at. -/
structure Draft where
  account : Datum
  key : PublicKey
  stake : Nat

/-- Why an entry cannot be read: it is refused, or the whole file is. -/
abbrev EntryStop := EntryFault ⊕ RosterFileFault

/-- Refuse an entry. -/
def refuse {α : Type} (fault : EntryFault) : Except EntryStop α := .error (.inl fault)

/-- A member of an entry. -/
def member (name : String) : Datum → Except EntryStop Datum
  | .map members =>
    match Datum.lookup? name members with
    | some value => .ok value
    | none => refuse (.missing name)
  | _ => refuse .notObject

/-- The key of an entry. -/
def key : Datum → Except EntryStop PublicKey
  | .text text => (PublicKey.parse text).mapError fun fault => .inl (.key fault)
  | .brokenText codes => refuse (.brokenKey codes)
  | _ => .error (.inr .keyNotText)

/-- The stake of an entry. Fractions are dropped, and a truth value counts as zero or one. -/
def stake : Datum → Except EntryStop Int
  | .bool value => .ok (if value then 1 else 0)
  | .int value => .ok value
  | .float value =>
    if value.isNaN then refuse .stakeNaN
    else
      match value.truncate? with
      | some number => .ok number
      | none => .error (.inr .infiniteStake)
  | .text text =>
    (Integer.read .decimal text.toList).mapError fun fault =>
      .inl (.stakeText fault (text.toList.map Char.toNat))
  | .brokenText codes => refuse (.stakeText .malformed codes)
  | _ => refuse .stakeType

/-- The validator that an entry gives. -/
def draft (entry : Datum) : Except EntryStop Draft := do
  let account ← member "account_id" entry
  let key ← key (← member "public_key" entry)
  let units ← stake (← member "stake" entry)
  if account.isVoid then refuse (.invalid .noAccount)
  else if 0 ≤ units ∧ units < capacity 16 then return ⟨account, key, units.toNat⟩
  else refuse (.invalid (.notStake (.int units)))

/-- The validators that entries give, numbered from an index on. -/
def drafts (index : Nat) : List Datum → Except RosterFileFault (List Draft)
  | [] => .ok []
  | entry :: entries =>
    match draft entry with
    | .error (.inl fault) => .error (.entry index fault)
    | .error (.inr fault) => .error fault
    | .ok first => (drafts (index + 1) entries).map (first :: ·)

/-- A validator with an account that is a text. -/
def validator (draft : Draft) : Except RosterFileFault Validator :=
  match draft.account with
  | .text account => (Validator.ofFields account draft.key draft.stake).mapError .invalid
  | .brokenText codes => .error (.invalid (.brokenText codes))
  | _ => .error .accountNotText

/-- The roster of validators. That there are some, and that they hold stake, is looked at before
their accounts. -/
def roster (drafts : List Draft) : Except RosterFileFault Roster :=
  if drafts.isEmpty then .error (.invalid .noValidator)
  else if drafts.all fun draft => draft.stake = 0 then .error (.invalid .noStake)
  else do
    let validators ← drafts.mapM validator
    (Roster.ofValidators validators).mapError .invalid

/-- The roster that the content of a file stands for. -/
def read [Host] (content : Bytes) : Except RosterFileFault Roster :=
  match ofUtf8? content with
  | none => .error .unreadable
  | some text =>
    match Json.read Host.jsonDepth text with
    | .error .malformed => .error .unreadable
    | .error .tooDeep => .error .tooDeep
    | .ok (.list entries) => do roster (← drafts 0 entries)
    | .ok _ => .error .notList

end RosterFile

end Finality
