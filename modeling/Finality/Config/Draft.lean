import Finality.Config.Check

/-!
# Drafts of configurations

A host can fill in the settings of a configuration with values of any type. A draft is
checked like a configuration, section by section: a truth value or a floating-point number
counts as a number, and a byte string can be asked for a level but names none. What cannot be
compared with a number, or has no letters where a level is expected, ends the check.
-/

namespace Finality.Config

/-- The settings of a configuration, by section and name. -/
abbrev Draft := List (String × Fields)

/-- Why a draft is refused. -/
inductive DraftFault where
  | noSection
  | noSetting
  | notNumber
  | notLevel
  | unsound (problem : Problem)

/-- Whether a setting is below a bound. -/
def isBelow (setting : Datum) (bound : Int) : Except DraftFault Bool :=
  match setting with
  | .float value => .ok (value.isBelow bound)
  | setting =>
    match setting.integral? with
    | some value => .ok (value < bound)
    | none => .error .notNumber

/-- Whether a setting is at most a bound. What is no number is neither below nor at most. -/
def isAtMost (setting : Datum) (bound : Int) : Except DraftFault Bool :=
  match setting with
  | .float value => .ok (value.isBelow bound || value.toInt? == some bound)
  | setting => isBelow setting (bound + 1)

/-- Whether a setting is from one to the largest. -/
def isWithin (setting : Datum) : Except DraftFault Bool := do
  let isUndefined := match setting with
    | .float value => value.isNaN
    | _ => false
  return !(← isBelow setting 1) && (← isAtMost setting largestSetting) && !isUndefined

/-- Whether a setting names a level. -/
def namesLevel : Datum → Except DraftFault Bool
  | .text name => .ok (isLevel name)
  | .brokenText _ | .bytes _ => .ok false
  | _ => .error .notLevel

/-- Whether a setting names a log format. -/
def namesFormat : Datum → Bool
  | .text name => formats.contains name
  | _ => false

namespace Draft

/-- The standard settings. -/
def standard : Draft := Config.standard.sections

/-- The settings of a section. -/
def settings (draft : Draft) (part : String) : Fields := (draft.lookup part).getD []

/-- The draft with settings of a section changed, if the section has them. -/
def fill (draft : Draft) (name : String) (changes : Fields) : Except DraftFault Draft :=
  match draft.lookup name with
  | none => .error .noSection
  | some settings =>
    if changes.all fun change => (settings.get? change.1).isSome then
      .ok (draft.map fun (other, known) =>
        (other, if other = name then known.merge changes else known))
    else .error .noSetting

/-- The problem of a setting, unless it is in order. -/
def demand (draft : Draft) (name setting : String) (isSound : Datum → Except DraftFault Bool)
    (problem : Datum → Problem) : Except DraftFault Unit := do
  let value := ((draft.settings name).get? setting).getD .null
  if ← isSound value then return () else throw (.unsound (problem value))

/-- Accept a draft whose settings are in order; any other ends at its first fault. -/
def check (draft : Draft) : Except DraftFault Unit := do
  let opposite (found : Except DraftFault Bool) : Except DraftFault Bool := found.map not
  draft.demand "limits" "max_validators" (fun value => opposite (isBelow value 1))
    fun _ => .noValidators
  draft.demand "limits" "max_proof_depth" isWithin fun _ => .proofDepth
  draft.demand "verifier" "signature_workers" isWithin fun _ => .workers
  draft.demand "defaults" "trusting_period" (fun value => opposite (isAtMost value 0))
    fun _ => .trustingPeriod
  draft.demand "defaults" "max_clock_drift" (fun value => opposite (isBelow value 0))
    fun _ => .clockDrift
  draft.demand "logging" "level" namesLevel .level
  draft.demand "logging" "format" (fun value => .ok (namesFormat value)) fun _ => .format

end Draft

end Finality.Config
