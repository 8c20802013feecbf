import Finality.Config.Load
import Finality.Proofs.Config.Duration

/-!
# How loading a configuration ends

Every environment ends in a sound configuration or in a report that tells what is wrong with
it, apart from the environments in which the first variable that is no number or duration
holds a duration with the long s (`Config.load_outcome`). Such an environment ends without a
report (`Config.long_s_escapes`). Durations are bounded from below only
(`Config.durations_of_check`, `Config.load_of_means`).
-/

namespace Finality

namespace Environment

/-- A variable is not set, or it holds an integer. -/
def HoldsInteger (environment : Environment) (name : String) : Prop :=
  ∀ raw, environment.value? name = some raw →
    ∃ value, Integer.read .any (Text.trim Text.isBlank raw.toList) = .ok value

/-- A variable is not set, or it holds a duration. -/
def HoldsDuration (environment : Environment) (name : String) : Prop :=
  ∀ raw, environment.value? name = some raw → ∃ nanoseconds, Duration.Means raw nanoseconds

/-- A variable holds a duration, or it is not set and the standard one is taken. -/
def SetsDuration (environment : Environment) (name : String) (standard value : Int) : Prop :=
  match environment.value? name with
  | none => value = standard
  | some raw => ∃ nanoseconds : Nat, Duration.Means raw nanoseconds ∧ value = nanoseconds

/-- A variable holds a duration whose unit is written with the long s. -/
def HoldsLong (environment : Environment) (name : String) : Prop :=
  ∃ raw, environment.value? name = some raw ∧ Duration.MeansLong raw

/-- A duration is written with the long s, and every variable read before it is in order. -/
def ComesToLong (environment : Environment) : Prop :=
  (∀ name ∈ ["LIGHTCLIENT_MAX_VALIDATORS", "LIGHTCLIENT_MAX_PROOF_DEPTH",
      "LIGHTCLIENT_SIGNATURE_WORKERS"], environment.HoldsInteger name) ∧
    (environment.HoldsLong "LIGHTCLIENT_TRUSTING_PERIOD" ∨
      environment.HoldsDuration "LIGHTCLIENT_TRUSTING_PERIOD" ∧
        environment.HoldsLong "LIGHTCLIENT_MAX_CLOCK_DRIFT")

/-- An environment that sets the two durations. -/
def lasting (period drift : String) : Environment :=
  [("LIGHTCLIENT_TRUSTING_PERIOD", period), ("LIGHTCLIENT_MAX_CLOCK_DRIFT", drift)]

end Environment

namespace Config

section

variable {environment : Environment} {name : String} {standard : Int}

/-! ## Single variables -/

theorem exists_integerOr_iff :
    (∃ value, integerOr environment name standard = .ok value) ↔
      environment.HoldsInteger name := by
  rw [Environment.HoldsInteger, integerOr]
  cases environment.value? name with
  | none =>
      constructor
      · intro _ raw set
        cases set
      · intro _
        exact ⟨standard, rfl⟩
  | some raw =>
      constructor
      · rintro ⟨value, ran⟩ other set
        cases set
        exact ⟨value, Outcome.mapError_eq_ok_iff.1 ran⟩
      · intro holds
        rcases holds raw rfl with ⟨value, ran⟩
        exact ⟨value, Outcome.mapError_eq_ok_iff.2 ran⟩

theorem integerOr_ne_longS : integerOr environment name standard ≠ .error .longS := by
  rw [integerOr]
  intro failed
  split at failed
  · cases failed
  · rcases Outcome.mapError_eq_error_iff.1 failed with ⟨fault, -, equal⟩
    cases equal

theorem durationOr_of_set {raw : String} (set : environment.value? name = some raw) :
    durationOr environment name standard =
      match Duration.read raw with
      | .ok nanoseconds => .ok nanoseconds
      | .error .longS => .error .longS
      | .error _ => .error (.notDuration name raw) := by
  cases read : Duration.read raw with
  | ok nanoseconds => simp only [durationOr, set, read]
  | error fault => cases fault <;> simp only [durationOr, set, read]

theorem durationOr_of_unset (unset : environment.value? name = none) :
    durationOr environment name standard = .ok standard := by
  rw [durationOr, unset]

theorem durationOr_eq_ok_iff {value : Int} :
    durationOr environment name standard = .ok value ↔
      environment.SetsDuration name standard value := by
  rw [Environment.SetsDuration]
  cases held : environment.value? name with
  | none =>
      rw [durationOr_of_unset held]
      exact ⟨fun equal => by cases equal; rfl, fun equal => by rw [equal]⟩
  | some raw =>
      rw [durationOr_of_set held]
      constructor
      · intro ran
        split at ran
        · next nanoseconds read =>
          cases ran
          exact ⟨nanoseconds, Duration.read_eq_ok_iff.1 read, rfl⟩
        · cases ran
        · cases ran
      · rintro ⟨nanoseconds, means, rfl⟩
        rw [Duration.read_eq_ok_iff.2 means]

/-- A text that means a duration is not blank, so it is read. -/
theorem setsDuration_of_means {raw : String} {nanoseconds : Nat}
    (set : environment.lookup name = some raw) (means : Duration.Means raw nanoseconds)
    (standard : Int) : environment.SetsDuration name standard nanoseconds := by
  have read : environment.value? name = some raw := by
    rw [Environment.value?, set]
    exact if_neg means.not_blank
  rw [Environment.SetsDuration, read]
  exact ⟨nanoseconds, means, rfl⟩

theorem exists_durationOr_iff :
    (∃ value, durationOr environment name standard = .ok value) ↔
      environment.HoldsDuration name := by
  simp only [durationOr_eq_ok_iff, Environment.SetsDuration, Environment.HoldsDuration]
  cases environment.value? name with
  | none => simp
  | some raw => simp

theorem durationOr_eq_longS_iff :
    durationOr environment name standard = .error .longS ↔ environment.HoldsLong name := by
  constructor
  · intro failed
    cases held : environment.value? name with
    | none => cases (durationOr_of_unset held).symm.trans failed
    | some raw =>
        rw [durationOr_of_set held] at failed
        refine ⟨raw, held, ?_⟩
        split at failed
        · cases failed
        · next long => exact Duration.read_eq_longS_iff.1 long
        · cases failed
  · rintro ⟨raw, held, long⟩
    rw [durationOr_of_set held, Duration.read_eq_longS_iff.2 long]

end

/-! ## Loading -/

section

variable {environment : Environment} {config : Config}

theorem check_eq_ok {sound : Config} (passed : config.check = .ok sound) : sound = config := by
  rw [check] at passed
  split at passed
  · cases passed
    rfl
  · cases passed

theorem check_eq_ok_iff : config.check = .ok config ↔ ∀ demand ∈ config.demands, demand.1 := by
  rw [check]
  cases found : config.demands.find? fun demand => !demand.1 with
  | none =>
      refine iff_of_true rfl fun demand member => ?_
      simpa using List.find?_eq_none.1 found demand member
  | some demand =>
      constructor
      · intro equal
        cases equal
      · intro all
        have fails := List.find?_some found
        rw [all demand (List.mem_of_find?_eq_some found)] at fails
        cases fails

/-- Durations of sound configurations are not negative, and the trusting period is not zero. -/
theorem durations_of_check (sound : config.check = .ok config) :
    0 < config.defaults.trustingPeriod ∧ 0 ≤ config.defaults.maxClockDrift := by
  have all := check_eq_ok_iff.1 sound
  have period : (decide (0 < config.defaults.trustingPeriod), .trustingPeriod) ∈
      config.demands := by simp [demands]
  have drift : (decide (0 ≤ config.defaults.maxClockDrift), .clockDrift) ∈
      config.demands := by simp [demands]
  exact ⟨of_decide_eq_true (all _ period), of_decide_eq_true (all _ drift)⟩

/-- The configuration that is loaded is the one that was checked, and its durations are those of
its variables. -/
theorem sets_of_load (loaded : load environment = .ok config) :
    config.check = .ok config ∧
      environment.SetsDuration "LIGHTCLIENT_TRUSTING_PERIOD" standard.defaults.trustingPeriod
        config.defaults.trustingPeriod ∧
      environment.SetsDuration "LIGHTCLIENT_MAX_CLOCK_DRIFT" standard.defaults.maxClockDrift
        config.defaults.maxClockDrift := by
  rw [load] at loaded
  rcases Outcome.bind_eq_ok_iff.1 loaded with ⟨maxValidators, -, loaded⟩
  rcases Outcome.bind_eq_ok_iff.1 loaded with ⟨maxProofDepth, -, loaded⟩
  rcases Outcome.bind_eq_ok_iff.1 loaded with ⟨workers, -, loaded⟩
  rcases Outcome.bind_eq_ok_iff.1 loaded with ⟨trustingPeriod, period, loaded⟩
  rcases Outcome.bind_eq_ok_iff.1 loaded with ⟨maxClockDrift, drift, loaded⟩
  have passed := Outcome.mapError_eq_ok_iff.1 loaded
  cases check_eq_ok passed
  exact ⟨passed, durationOr_eq_ok_iff.1 period, durationOr_eq_ok_iff.1 drift⟩

theorem check_of_load (loaded : load environment = .ok config) : config.check = .ok config :=
  (sets_of_load loaded).1

theorem check_ne_longS : config.check.mapError LoadFault.unsound ≠ .error .longS := by
  intro failed
  rcases Outcome.mapError_eq_error_iff.1 failed with ⟨problem, -, equal⟩
  cases equal

/-- Only a duration can end loading without a report, and only after what is read before it. -/
theorem load_eq_longS_iff : load environment = .error .longS ↔ environment.ComesToLong := by
  constructor
  · intro failed
    rw [load] at failed
    have failed := (Outcome.bind_eq_error_iff.1 failed).resolve_left integerOr_ne_longS
    rcases failed with ⟨maxValidators, first, failed⟩
    have failed := (Outcome.bind_eq_error_iff.1 failed).resolve_left integerOr_ne_longS
    rcases failed with ⟨maxProofDepth, second, failed⟩
    have failed := (Outcome.bind_eq_error_iff.1 failed).resolve_left integerOr_ne_longS
    rcases failed with ⟨workers, third, failed⟩
    refine ⟨?_, ?_⟩
    · rw [List.forall_mem_cons, List.forall_mem_cons, List.forall_mem_singleton]
      exact ⟨exists_integerOr_iff.1 ⟨_, first⟩, exists_integerOr_iff.1 ⟨_, second⟩,
        exists_integerOr_iff.1 ⟨_, third⟩⟩
    · rcases Outcome.bind_eq_error_iff.1 failed with long | ⟨trustingPeriod, fourth, failed⟩
      · exact Or.inl (durationOr_eq_longS_iff.1 long)
      · rcases Outcome.bind_eq_error_iff.1 failed with long | ⟨maxClockDrift, -, failed⟩
        · exact Or.inr ⟨exists_durationOr_iff.1 ⟨_, fourth⟩, durationOr_eq_longS_iff.1 long⟩
        · exact absurd failed check_ne_longS
  · rintro ⟨integers, comes⟩
    rw [List.forall_mem_cons, List.forall_mem_cons, List.forall_mem_singleton] at integers
    rcases integers with ⟨first, second, third⟩
    rcases exists_integerOr_iff.2 first with ⟨maxValidators, first⟩
    rcases exists_integerOr_iff.2 second with ⟨maxProofDepth, second⟩
    rcases exists_integerOr_iff.2 third with ⟨workers, third⟩
    rw [load, Outcome.bind_of_ok first, Outcome.bind_of_ok second, Outcome.bind_of_ok third]
    rcases comes with long | ⟨fourth, long⟩
    · exact Outcome.bind_of_error (durationOr_eq_longS_iff.2 long)
    · rcases exists_durationOr_iff.2 fourth with ⟨trustingPeriod, fourth⟩
      rw [Outcome.bind_of_ok fourth]
      exact Outcome.bind_of_error (durationOr_eq_longS_iff.2 long)

/-- The standard configuration with other durations. -/
def lasting (trustingPeriod maxClockDrift : Int) : Config :=
  { standard with defaults := ⟨trustingPeriod, maxClockDrift⟩ }

/-- The standard configuration is sound with any durations that are sound. -/
theorem check_lasting {trusted ahead : Int} (period : 0 < trusted) (drift : 0 ≤ ahead) :
    (lasting trusted ahead).check = .ok (lasting trusted ahead) := by
  have usual : standard.check = .ok standard := rfl
  have all := check_eq_ok_iff.1 usual
  refine check_eq_ok_iff.2 ?_
  simp only [demands, List.forall_mem_cons] at all ⊢
  rcases all with ⟨validators, depth, workers, -, -, others⟩
  exact ⟨validators, depth, workers, decide_eq_true period, decide_eq_true drift, others⟩

/-- Every positive trusting period and every clock drift can be loaded, however long they are. -/
theorem load_of_means {period drift : String} {trusted ahead : Nat}
    (periodMeans : Duration.Means period trusted) (driftMeans : Duration.Means drift ahead)
    (positive : 0 < trusted) :
    load (.lasting period drift) = .ok (lasting trusted ahead) := by
  have periodHeld : ∀ usual, (Environment.lasting period drift).SetsDuration
      "LIGHTCLIENT_TRUSTING_PERIOD" usual trusted := setsDuration_of_means rfl periodMeans
  have driftHeld : ∀ usual, (Environment.lasting period drift).SetsDuration
      "LIGHTCLIENT_MAX_CLOCK_DRIFT" usual ahead := setsDuration_of_means rfl driftMeans
  have sound := check_lasting (Int.natCast_pos.2 positive) (Int.natCast_nonneg ahead)
  rw [load]
  -- the other variables are not set
  refine (Outcome.bind_of_ok rfl).trans ?_
  refine (Outcome.bind_of_ok rfl).trans ?_
  refine (Outcome.bind_of_ok rfl).trans ?_
  refine (Outcome.bind_of_ok (durationOr_eq_ok_iff.2 (periodHeld _))).trans ?_
  refine (Outcome.bind_of_ok (durationOr_eq_ok_iff.2 (driftHeld _))).trans ?_
  have level : Text.upper standard.logging.level = standard.logging.level := by decide +kernel
  have format : Text.fold standard.logging.format = standard.logging.format := by decide +kernel
  change (Config.check ⟨_, _, _, ⟨Text.upper standard.logging.level,
    Text.fold standard.logging.format⟩⟩).mapError LoadFault.unsound = _
  rw [level, format]
  exact Outcome.mapError_eq_ok_iff.2 sound

/-- An environment ends in a sound configuration or in a report of a configuration error, unless
it comes to a duration with the long s. What a text means as a duration, and whether it is written
with the long s, is settled as well: any other text is refused in words. -/
theorem load_outcome (environment : Environment) (text : String) :
    ((∀ config, load environment = .ok config → config.check = .ok config) ∧
      Outcome.FailsUnless
        (fun fault => ∃ report, fault.report? = some report ∧ report.reason = .config) .longS
        environment.ComesToLong (load environment)) ∧
    (∀ nanoseconds, Duration.read text = .ok nanoseconds ↔ Duration.Means text nanoseconds) ∧
      Outcome.FailsUnless (fun fault => ∃ message, fault.message? = some message) .longS
        (Duration.MeansLong text) (Duration.read text) := by
  refine ⟨⟨fun _ => check_of_load, ?_, load_eq_longS_iff⟩, fun _ => Duration.read_eq_ok_iff,
    Duration.read_failsUnless text⟩
  intro fault _
  cases fault with
  | notInteger name raw => exact Or.inl ⟨_, rfl, rfl⟩
  | notDuration name raw => exact Or.inl ⟨_, rfl, rfl⟩
  | unsound problem => exact Or.inl ⟨_, rfl, rfl⟩
  | longS => exact Or.inr rfl

end

/-- A trusting period of one second with the long s ends loading without a report. -/
theorem long_s_escapes :
    load [("LIGHTCLIENT_TRUSTING_PERIOD", "1\u017f")] = .error .longS ∧
      LoadFault.longS.report? = none ∧ Duration.read "1\u017f" = .error .longS ∧
        DurationFault.longS.message? = none :=
  ⟨rfl, rfl, rfl, rfl⟩

end Config

end Finality
