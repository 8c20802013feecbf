import Finality.Config.Basic
import Finality.Log.Level
import Finality.Report
import Finality.Text.Case

/-!
# Sound configurations

A configuration is sound when its bounds, durations and names make sense. `Config.check`
looks at the sections in a fixed order and gives the first problem; `Config.sections`
shows a configuration as data.
-/

namespace Finality.Config

/-- What can be wrong with a configuration. -/
inductive Problem where
  | noValidators
  | proofDepth
  | workers
  | trustingPeriod
  | clockDrift
  | level (name : Datum)
  | format

/-- The largest proof depth and the largest number of workers that can be set. -/
def largestSetting : Int := 256

/-- The text of a problem. -/
def Problem.message : Problem → String
  | noValidators => "max_validators must be >= 1"
  | proofDepth => "max_proof_depth must be in 1..256"
  | workers => "signature_workers must be in 1..256"
  | trustingPeriod => "trusting_period must be > 0"
  | clockDrift => "max_clock_drift must be >= 0"
  | level name => "unknown log level " ++ name.shown
  | format => "log format must be json, text or auto"

/-- The names of the log formats. -/
def formats : List String := ["json", "text", "auto"]

/-- Whether a text names a log level in some letter case. -/
def isLevel (name : String) : Bool :=
  (Level.named.map (·.2)).contains (Text.upper name)

/-- Whether a setting is from one to the largest. -/
def inRange (setting : Int) : Bool := 1 ≤ setting && setting ≤ largestSetting

/-- Every problem, in the order of the sections, with whether a configuration is free of it. -/
def demands (config : Config) : List (Bool × Problem) := [
  (1 ≤ config.limits.maxValidators, .noValidators),
  (inRange config.limits.maxProofDepth, .proofDepth),
  (inRange config.verifier.signatureWorkers, .workers),
  (0 < config.defaults.trustingPeriod, .trustingPeriod),
  (0 ≤ config.defaults.maxClockDrift, .clockDrift),
  (isLevel config.logging.level, .level (.text config.logging.level)),
  (formats.contains config.logging.format, .format)]

/-- Accept a sound configuration; any other ends at its first problem. -/
def check (config : Config) : Except Problem Config :=
  match config.demands.find? fun demand => !demand.1 with
  | none => .ok config
  | some demand => .error demand.2

/-- The sections of a configuration by name, each with its settings by name. -/
def sections (config : Config) : List (String × Fields) := [
  ("limits", [("max_validators", .int config.limits.maxValidators),
    ("max_proof_depth", .int config.limits.maxProofDepth)]),
  ("verifier", [("signature_workers", .int config.verifier.signatureWorkers)]),
  ("defaults", [("trusting_period", .int config.defaults.trustingPeriod),
    ("max_clock_drift", .int config.defaults.maxClockDrift)]),
  ("logging", [("level", .text config.logging.level),
    ("format", .text config.logging.format)])]

/-- A configuration as data. -/
def toDatum (config : Config) : Datum :=
  .record (config.sections.map fun (name, settings) => (name, .record settings))

end Finality.Config
