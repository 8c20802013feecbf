import Finality.Datum

/-!
# Configuration

Bounds that keep verification finite, the number of signature workers, the durations of
new client states, and logging. A configuration is a plain record: it can hold any
numbers, and `Config.check` says whether they make sense.
-/

namespace Finality

/-- The nanoseconds of a second. -/
def nanosPerSecond : Nat := 1000000000

namespace Config

/-- Bounds on the work for one call. -/
structure Limits where
  /-- The size of the largest roster that a header is checked against. -/
  maxValidators : Int
  /-- The most steps of a state proof. -/
  maxProofDepth : Int

/-- How signatures are checked. -/
structure Verifier where
  /-- The number of workers that share the signatures of a header. -/
  signatureWorkers : Int

/-- What new client states start with, in nanoseconds. -/
structure Defaults where
  /-- How long a consensus state is trusted. -/
  trustingPeriod : Int
  /-- How far a header may be ahead of the state it is verified against. -/
  maxClockDrift : Int

/-- How log records are written. -/
structure Logging where
  /-- The name of the lowest level that is written. -/
  level : String
  /-- The form of the records: `json`, `text` or `auto`. -/
  format : String

end Config

/-- A configuration. -/
structure Config where
  limits : Config.Limits
  verifier : Config.Verifier
  defaults : Config.Defaults
  logging : Config.Logging

namespace Config

/-- The configuration without any settings: rosters of 1024 validators and proofs of 64 steps,
one worker, a trusting period of fourteen days and a clock drift of one. -/
def standard : Config where
  limits := ⟨1024, 64⟩
  verifier := ⟨1⟩
  defaults := ⟨14 * 86400 * nanosPerSecond, 86400 * nanosPerSecond⟩
  logging := ⟨"INFO", "auto"⟩

end Config

end Finality
