import Finality.Rejection

/-!
# Epoch chains

An epoch chain binds epochs to rosters. An epoch is bound once and for all: extending a
chain by a known epoch changes nothing if the roster has the same commitment, and is
refused otherwise.
-/

namespace Finality

/-- The rosters of epochs, in the order in which they were bound. -/
structure EpochChain where
  epochs : List (Hash × Roster)

namespace EpochChain

/-- The chain without epochs. -/
def empty : EpochChain := ⟨[]⟩

/-- The roster of an epoch. -/
def get? (chain : EpochChain) (epoch : Bytes) : Option Roster :=
  (chain.epochs.find? fun entry => entry.1.bytes = epoch).map (·.2)

/-- The number of epochs. -/
def size (chain : EpochChain) : Nat := chain.epochs.length

/-- The chain that also binds an epoch to a roster. -/
def extend (chain : EpochChain) (epoch : Bytes) (roster : Roster) : Outcome EpochChain :=
  match chain.get? epoch with
  | some known =>
    if known.commitment = roster.commitment then .ok chain
    else reject (.epochRebound epoch known.commitment roster.commitment)
  | none =>
    match Hash.ofBytes? epoch with
    | some epoch => .ok ⟨chain.epochs ++ [(epoch, roster)]⟩
    | none => .error (.invalid .epochSize)

end EpochChain

namespace Roster

/-- The validator at a position. Negative positions count from the end. -/
def validatorAt? (roster : Roster) (position : Int) : Option Validator :=
  let index := if position < 0 then position + roster.size else position
  if 0 ≤ index then roster.validators[index.toNat]? else none

/-- The stake of a validator whose signature stands for a message. -/
def verifiedStake [Signing] (validator : Validator) (message : Bytes) (signature : Signature) :
    Except Rejection Nat :=
  match signature.check message validator.key with
  | .ok () => .ok validator.stake.units
  | .error fault => .error (.signature fault none)

end Roster

end Finality
