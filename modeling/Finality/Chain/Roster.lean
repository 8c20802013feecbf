import Finality.Chain.Key
import Finality.Text.Utf8

/-!
# Rosters

A roster is the ordered list of the validators of one epoch with their stakes. Its total
stake is positive, since no header could gather a majority of nothing. Order matters: the
same validators in another order are another roster.

Every roster has a commitment, so it is small enough to be written: the number of its
validators and the length of every account fit four bytes.
-/

namespace Finality

/-- An amount of stake, below `2 ^ 128`. -/
structure Stake where
  units : Nat
  units_lt : units < capacity 16
deriving DecidableEq

/-- One validator of an epoch. -/
structure Validator where
  account : String
  key : PublicKey
  stake : Stake
  account_ne : account ≠ ""
deriving DecidableEq

/-- The stake of all validators of a list. -/
def totalStake : List Validator → Nat
  | [] => 0
  | validator :: validators => validator.stake.units + totalStake validators

/-- The first length that does not fit four bytes when validators are written. -/
def oversize? (validators : List Validator) : Option Nat :=
  (validators.length :: validators.map fun validator => (utf8 validator.account).length).find?
    fun length => capacity 4 ≤ length

/-- The validators of one epoch. -/
structure Roster where
  validators : List Validator
  staked : 0 < totalStake validators
  writable : oversize? validators = none
deriving DecidableEq

namespace Roster

/-- The total stake of a roster. -/
def total (roster : Roster) : Nat := totalStake roster.validators

/-- The number of validators. -/
def size (roster : Roster) : Nat := roster.validators.length

theorem validators_ne_nil (roster : Roster) : roster.validators ≠ [] := by
  intro h
  have hstaked := roster.staked
  simp [h, totalStake] at hstaked

end Roster

end Finality
