import Finality.Client.Basic
import Finality.Proofs.Config.Loading
import Finality.Proofs.Wire.Bijection
import Finality.Proofs.Wire.Tagged
import Finality.Wire.Form

/-!
# New client states

A configuration says how long a new client trusts its states and how far headers may be ahead
of them. Checking a configuration bounds these durations from below only, and a client state
holds them in words, so a sound configuration makes client states exactly if both durations
are below `2 ^ 64` (`ClientState.fresh_outcome`). A longer one is refused when the client
state is made, not when the configuration is loaded: any positive duration loads
(`Config.load_of_means`).
-/

namespace Finality

/-! ## The durations of a configuration -/

namespace Config

/-- The durations of a configuration, by the fields of a client state that they become. -/
def durations (config : Config) : List (String × Int) :=
  [("trusting_period", config.defaults.trustingPeriod),
    ("max_clock_drift", config.defaults.maxClockDrift)]

/-- The first duration of a configuration that no word holds. -/
def longDuration? (config : Config) : Option (String × Int) :=
  config.durations.find? fun duration => decide (capacity 8 ≤ duration.2)

section

variable {config : Config}

theorem longDuration?_eq_none_iff :
    config.longDuration? = none ↔
      config.defaults.trustingPeriod < capacity 8 ∧ config.defaults.maxClockDrift < capacity 8 := by
  simp [longDuration?, durations]

theorem longDuration?_cases {field : String} {value : Int}
    (long : config.longDuration? = some (field, value)) :
    capacity 8 ≤ value ∧
      (field = "trusting_period" ∧ value = config.defaults.trustingPeriod ∨
        config.defaults.trustingPeriod < capacity 8 ∧
          field = "max_clock_drift" ∧ value = config.defaults.maxClockDrift) := by
  rw [longDuration?, durations, List.find?_cons, List.find?_singleton] at long
  split at long
  · next passes =>
    cases long
    exact ⟨of_decide_eq_true passes, Or.inl ⟨rfl, rfl⟩⟩
  · next fits =>
    split at long
    · next passes =>
      cases long
      exact ⟨of_decide_eq_true passes, Or.inr ⟨Int.not_le.1 (of_decide_eq_false fits), rfl, rfl⟩⟩
    · cases long

end

end Config

/-! ## From durations to words -/

namespace Invalid

theorem checkWord_toNat (field : String) (value : UInt64) :
    checkWord field value.toNat = .ok value := by
  have fits : (0 : Int) ≤ value.toNat ∧ (value.toNat : Int) < capacity 8 :=
    ⟨Int.natCast_nonneg _, Int.ofNat_lt.2 value.toNat_lt⟩
  rw [checkWord, if_pos fits, Int.toNat_natCast, UInt64.ofNat_toNat]

theorem checkWord_of_long {value : Int} (field : String) (long : capacity 8 ≤ value) :
    checkWord field value = .error (.notWord field (.int value)) :=
  if_neg fun fits => Int.not_lt.2 long fits.2

/-- Every number from zero on that is short enough is the one of a word. -/
theorem exists_word {value : Int} (nonneg : 0 ≤ value) (short : value < capacity 8) :
    ∃ word : UInt64, (word.toNat : Int) = value := by
  lift value to Nat using nonneg
  have short : value < 2 ^ 64 := Int.ofNat_lt.1 short
  exact ⟨UInt64.ofNat value, congrArg _ (UInt64.toNat_ofNat_of_lt short)⟩

end Invalid

/-- A value is written in every form and read back on every host. -/
def Value.Travels (value : Value) : Prop :=
  ∀ [Host] form, ∃ written, value.encode? form = some written ∧
    decode form value.kind written = .ok value

namespace ClientState

/-- A client state starts at a height and a time with the durations of a configuration, and it is
not frozen. -/
structure StartsFrom (config : Config) (height : Height) (timestamp : UInt64)
    (state : ClientState) : Prop where
  latestHeight : state.latestHeight = height
  latestTimestamp : state.latestTimestamp = timestamp
  trustingPeriod : (state.trustingPeriod.toNat : Int) = config.defaults.trustingPeriod
  maxClockDrift : (state.maxClockDrift.toNat : Int) = config.defaults.maxClockDrift
  frozenHeight : state.frozenHeight = none

/-- No length is written in a client state, so nothing in it can be too long. -/
theorem travels (state : ClientState) : Value.Travels ⟨.clientState, state⟩ := by
  intro _ form
  cases form with
  | compact =>
      have written := (@Compact.encodeChecked_eq_ok_iff .clientState state _).2 ⟨nofun, rfl⟩
      have read := Compact.decode_eq_ok_iff.2 written
      refine ⟨Compact.encode .clientState state, ?_, ?_⟩
      · rw [Value.encode?, written]
        rfl
      · rw [Value.decode, read]
        rfl
  | tagged =>
      let value : Value := ⟨.clientState, state⟩
      have named : value.kind.url? = some _ := Kind.url?_of_isMessage rfl
      have written := Tagged.encode?_eq_some_iff.2
        ⟨_, named, (Tagged.fits_envelope_iff named).2 nofun, rfl⟩
      refine ⟨_, written, ?_⟩
      exact Tagged.decode_eq_ok_iff_encode?.2 ⟨fun wanted member => Option.some.inj member, written⟩

section

variable {config : Config} (height : Height) (timestamp : UInt64)

/-- Short durations of a sound configuration become a client state. -/
theorem fresh_of_short (sound : config.check = .ok config) (short : config.longDuration? = none) :
    ∃ state, fresh config height timestamp.toNat none none = .ok state ∧
      StartsFrom config height timestamp state := by
  rcases Config.durations_of_check sound with ⟨positive, nonneg⟩
  rcases Config.longDuration?_eq_none_iff.1 short with ⟨shortPeriod, shortDrift⟩
  rcases Invalid.exists_word positive.le shortPeriod with ⟨period, periodEq⟩
  rcases Invalid.exists_word nonneg shortDrift with ⟨drift, driftEq⟩
  have trusts : period ≠ 0 := by
    rintro rfl
    exact positive.ne periodEq
  refine ⟨⟨height, timestamp, period, drift, none, trusts⟩, ?_, rfl, rfl, periodEq, driftEq, rfl⟩
  rw [fresh, Option.getD_none, Option.getD_none, ← periodEq, ← driftEq,
    Invalid.checkWord_toNat, Invalid.checkWord_toNat, Invalid.checkWord_toNat]
  exact dif_pos trusts

/-- The first duration that no word holds is named by the fault. -/
theorem fresh_of_long {field : String} {value : Int} (sound : config.check = .ok config)
    (long : config.longDuration? = some (field, value)) :
    fresh config height timestamp.toNat none none = .error (.notWord field (.int value)) := by
  rw [fresh, Option.getD_none, Option.getD_none]
  refine (Outcome.bind_of_ok (Invalid.checkWord_toNat _ timestamp)).trans ?_
  rcases Config.longDuration?_cases long with ⟨tooLong, ⟨rfl, rfl⟩ | ⟨shortPeriod, rfl, rfl⟩⟩
  · exact Outcome.bind_of_error (Invalid.checkWord_of_long _ tooLong)
  · have positive := (Config.durations_of_check sound).1
    rcases Invalid.exists_word positive.le shortPeriod with ⟨period, periodEq⟩
    rw [← periodEq]
    refine (Outcome.bind_of_ok (Invalid.checkWord_toNat _ period)).trans ?_
    exact Outcome.bind_of_error (Invalid.checkWord_of_long _ tooLong)

/-- A client state is made exactly if no duration is too long for a word. -/
theorem exists_fresh_iff (sound : config.check = .ok config) :
    (∃ state, fresh config height timestamp.toNat none none = .ok state) ↔
      config.longDuration? = none := by
  constructor
  · rintro ⟨state, made⟩
    cases long : config.longDuration? with
    | none => rfl
    | some duration => cases made.symm.trans (fresh_of_long height timestamp sound long)
  · intro short
    rcases fresh_of_short height timestamp sound short with ⟨state, made, -⟩
    exact ⟨state, made⟩

end

/-- A configuration that was checked or loaded makes a client state at any height and time exactly
if both durations are below `2 ^ 64`. The client state starts there, has these durations, and is
written and read back in both forms. Otherwise the first duration that is longer is refused as a
field. Where the configuration was loaded, the durations are those of its variables, and no
duration is refused for its length before: whatever positive trusting period and whatever clock
drift the variables of an environment mean are loaded. -/
theorem fresh_outcome {config : Config} (height : Height) (timestamp : UInt64)
    (sound : config.check = .ok config ∨ ∃ environment, Config.load environment = .ok config) :
    ((∃ state, fresh config height timestamp.toNat none none = .ok state) ↔
        config.defaults.trustingPeriod < capacity 8 ∧
          config.defaults.maxClockDrift < capacity 8) ∧
      (∀ state, fresh config height timestamp.toNat none none = .ok state →
        StartsFrom config height timestamp state ∧ Value.Travels ⟨.clientState, state⟩) ∧
      (∀ field value, config.longDuration? = some (field, value) →
        fresh config height timestamp.toNat none none = .error (.notWord field (.int value))) ∧
      (∀ environment, Config.load environment = .ok config →
        environment.SetsDuration "LIGHTCLIENT_TRUSTING_PERIOD"
          Config.standard.defaults.trustingPeriod config.defaults.trustingPeriod ∧
        environment.SetsDuration "LIGHTCLIENT_MAX_CLOCK_DRIFT"
          Config.standard.defaults.maxClockDrift config.defaults.maxClockDrift) ∧
      ∀ period drift trusted ahead, Duration.Means period trusted → Duration.Means drift ahead →
        0 < trusted → Config.load (.lasting period drift) = .ok (Config.lasting trusted ahead) := by
  have sound : config.check = .ok config := by
    rcases sound with checked | ⟨environment, loaded⟩
    · exact checked
    · exact (Config.sets_of_load loaded).1
  have short_iff := exists_fresh_iff height timestamp sound
  refine ⟨short_iff.trans Config.longDuration?_eq_none_iff, ?_, ?_, ?_, ?_⟩
  · intro state made
    have short := short_iff.1 ⟨state, made⟩
    rcases fresh_of_short height timestamp sound short with ⟨other, ran, starts⟩
    cases made.symm.trans ran
    exact ⟨starts, travels state⟩
  · intro field value long
    exact fresh_of_long height timestamp sound long
  · intro environment loaded
    exact (Config.sets_of_load loaded).2
  · intro period drift trusted ahead periodMeans driftMeans positive
    exact Config.load_of_means periodMeans driftMeans positive

/-- The configuration that is loaded where no variable is set makes client states. -/
theorem fresh_outcome_unset :
    ∃ config state, Config.load [] = .ok config ∧
      fresh config ⟨0, 1⟩ (1 : UInt64).toNat none none = .ok state := by
  have loaded : Config.load [] = .ok Config.standard := rfl
  have short : Config.standard.defaults.trustingPeriod < capacity 8 ∧
      Config.standard.defaults.maxClockDrift < capacity 8 := by decide
  rcases (fresh_outcome ⟨0, 1⟩ 1 (Or.inr ⟨[], loaded⟩)).1.2 short with ⟨state, made⟩
  exact ⟨Config.standard, state, loaded, made⟩

/-- The standard configuration with a trusting period of 213504 days. -/
def longPeriod : Config := .lasting (213504 * 86400 * nanosPerSecond) (86400 * nanosPerSecond)

/-- A trusting period of 213504 days is loaded, and no client state can be made with it. -/
theorem long_period_unusable :
    Config.load [("LIGHTCLIENT_TRUSTING_PERIOD", "213504d")] = .ok longPeriod ∧
      longPeriod.check = .ok longPeriod ∧
      fresh longPeriod ⟨0, 1⟩ (1 : UInt64).toNat none none =
        .error (.notWord "trusting_period" (.int 18446745600000000000)) := by
  have sound : longPeriod.check = .ok longPeriod := Config.check_lasting (by decide) (by decide)
  exact ⟨rfl, sound, fresh_of_long ⟨0, 1⟩ 1 sound (by decide)⟩

end ClientState

end Finality
