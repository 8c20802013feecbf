import Finality.Config.Check
import Finality.Config.Duration

/-!
# Configurations from the environment

Every setting has a variable of its own. A variable that is unset or blank leaves the
standard value. Numbers and durations are read first, in the order of the sections, and
then the configuration as a whole is checked.
-/

namespace Finality

/-- The variables of an environment, by name. -/
abbrev Environment := List (String × String)

namespace Environment

/-- The value of a variable that is set and not blank. -/
def value? (environment : Environment) (name : String) : Option String :=
  match environment.lookup name with
  | none => none
  | some raw => if raw.toList.all Text.isBlank then none else some raw

end Environment

namespace Config

/-- The names of the variables, in the order of the sections. -/
def variableNames : List String := [
  "LIGHTCLIENT_MAX_VALIDATORS", "LIGHTCLIENT_MAX_PROOF_DEPTH",
  "LIGHTCLIENT_SIGNATURE_WORKERS", "LIGHTCLIENT_TRUSTING_PERIOD",
  "LIGHTCLIENT_MAX_CLOCK_DRIFT", "LIGHTCLIENT_LOG_LEVEL", "LIGHTCLIENT_LOG_FORMAT"]

/-- Why no configuration can be loaded. -/
inductive LoadFault where
  /-- A variable holds no integer. -/
  | notInteger (name raw : String)
  /-- A variable holds no duration. -/
  | notDuration (name raw : String)
  /-- The unit of a duration is written with the long s. -/
  | longS
  /-- The configuration is not sound. -/
  | unsound (problem : Problem)

/-- The report of a fault, where it has one. -/
def LoadFault.report? : LoadFault → Option Report
  | notInteger name raw =>
    some (.of .config (name ++ " is not an integer: " ++ Text.quoted raw) [])
  | notDuration name raw =>
    some (.of .config (name ++ " is not a duration: " ++ Text.quoted raw) [])
  | longS => none
  | unsound problem => some (.of .config problem.message [])

/-- An integer from the environment. -/
def integerOr (environment : Environment) (name : String) (standard : Int) :
    Except LoadFault Int :=
  match environment.value? name with
  | none => .ok standard
  | some raw =>
    (Integer.read .any (Text.trim Text.isBlank raw.toList)).mapError fun _ =>
      .notInteger name raw

/-- A duration from the environment. -/
def durationOr (environment : Environment) (name : String) (standard : Int) :
    Except LoadFault Int :=
  match environment.value? name with
  | none => .ok standard
  | some raw =>
    match Duration.read raw with
    | .ok nanoseconds => .ok nanoseconds
    | .error .longS => .error .longS
    | .error _ => .error (.notDuration name raw)

/-- The configuration that an environment sets. -/
def load (environment : Environment) : Except LoadFault Config := do
  let maxValidators ←
    integerOr environment "LIGHTCLIENT_MAX_VALIDATORS" standard.limits.maxValidators
  let maxProofDepth ←
    integerOr environment "LIGHTCLIENT_MAX_PROOF_DEPTH" standard.limits.maxProofDepth
  let workers ←
    integerOr environment "LIGHTCLIENT_SIGNATURE_WORKERS" standard.verifier.signatureWorkers
  let trustingPeriod ←
    durationOr environment "LIGHTCLIENT_TRUSTING_PERIOD" standard.defaults.trustingPeriod
  let maxClockDrift ←
    durationOr environment "LIGHTCLIENT_MAX_CLOCK_DRIFT" standard.defaults.maxClockDrift
  let level := (environment.value? "LIGHTCLIENT_LOG_LEVEL").getD standard.logging.level
  let format := (environment.value? "LIGHTCLIENT_LOG_FORMAT").getD standard.logging.format
  let config : Config := {
    limits := ⟨maxValidators, maxProofDepth⟩
    verifier := ⟨workers⟩
    defaults := ⟨trustingPeriod, maxClockDrift⟩
    logging := ⟨Text.upper level, Text.fold format⟩ }
  config.check.mapError .unsound

end Config

end Finality
