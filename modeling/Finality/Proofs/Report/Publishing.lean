import Finality.Proofs.Report.Fields
import Finality.Report.Raised

/-!
# What reports publish

A report shows a byte string in hexadecimal and a height as text, but it leaves lists and maps
as they are. So however a report is made and handled, its data under a name are those that
were given last, and a byte string or a height is left in them exactly if a list or a map was
given that holds one (`Raised.handle_publishes`).
-/

namespace Finality

/-! ## Byte strings and heights -/

namespace Datum

/-- Whether a datum is a byte string or a height, neither of which JSON has. -/
def isRaw : Datum → Bool
  | bytes _ => true
  | object value => decide (value.kind = .height)
  | _ => false

/-- Whether there is a byte string or a height in a datum, at any depth. -/
def holdsRaw (datum : Datum) : Bool := datum.somePart isRaw

/-- Whether a datum is a list or a map. -/
def isContainer : Datum → Bool
  | list _ | map _ => true
  | _ => false

theorem someEntry_isRaw (fields : Fields) :
    someEntry isRaw (fields.map fun (name, value) => (text name, value)) =
      fields.any fun field => field.2.holdsRaw := by
  induction fields with
  | nil => rfl
  | cons field fields ih =>
      rw [List.map_cons, List.any_cons, ← ih]
      rfl

theorem holdsRaw_record (fields : Fields) :
    (record fields).holdsRaw = fields.any fun field => field.2.holdsRaw :=
  someEntry_isRaw fields

/-- What is left in a datum when it is published was in a list or a map. -/
theorem holdsRaw_published (datum : Datum) :
    (Report.published datum).holdsRaw = (datum.isContainer && datum.holdsRaw) := by
  cases datum <;> rfl

end Datum

/-! ## Published fields -/

namespace Report

theorem publishedFields_insert (name : String) (value : Datum) (fields : Fields) :
    publishedFields (Fields.insert name value fields) =
      Fields.insert name (published value) (publishedFields fields) := by
  induction fields with
  | nil => rfl
  | cons field fields ih =>
      rcases field with ⟨known, old⟩
      rw [Fields.insert, publishedFields, publishedFields, List.map_cons, Fields.insert]
      split
      · rfl
      · rw [List.map_cons]
        exact congrArg _ ih

theorem publishedFields_merge (fields others : Fields) :
    publishedFields (fields.merge others) =
      (publishedFields fields).merge (publishedFields others) := by
  induction others generalizing fields with
  | nil => rfl
  | cons other others ih =>
      rcases other with ⟨name, value⟩
      refine (ih (Fields.insert name value fields)).trans ?_
      rw [publishedFields_insert]
      rfl

theorem publishedFields_mergeAll (fields : Fields) (others : List Fields) :
    publishedFields (fields.mergeAll others) =
      (publishedFields fields).mergeAll (others.map publishedFields) := by
  induction others generalizing fields with
  | nil => rfl
  | cons other others ih =>
      refine (ih (fields.merge other)).trans ?_
      rw [publishedFields_merge]
      rfl

theorem get?_publishedFields (fields : Fields) (name : String) :
    (publishedFields fields).get? name = (fields.get? name).map published := by
  induction fields with
  | nil => rfl
  | cons field fields ih =>
      rcases field with ⟨known, value⟩
      rw [publishedFields, List.map_cons, Fields.get?_cons, Fields.get?_cons]
      split
      · rfl
      · exact ih

theorem distinct_publishedFields {fields : Fields} (distinct : fields.Distinct) :
    (publishedFields fields).Distinct := by
  rw [Fields.Distinct, publishedFields, List.map_map]
  exact distinct

/-- Only a message, a truth value and data can bring byte strings and heights into a report. -/
theorem holdsRaw_toDatum (report : Report) (includeCause : Bool) :
    (report.toDatum includeCause).holdsRaw =
      (report.message.holdsRaw || (Datum.record report.data).holdsRaw
        || report.retryable.holdsRaw) := by
  have textless : ∀ text : String, (Datum.text text).holdsRaw = false := fun _ => rfl
  unfold toDatum
  split
  · next cause _ =>
    have causeless :
        (Datum.record [("type", .text cause.type), ("message", .text cause.message)]).holdsRaw =
          false := rfl
    rw [Datum.holdsRaw_record]
    simp [textless, causeless, Bool.or_assoc]
  · rw [Datum.holdsRaw_record]
    simp [textless, Bool.or_assoc]

theorem holdsRaw_publishedFields (fields : Fields) :
    (Datum.record (publishedFields fields)).holdsRaw =
      fields.any fun field => field.2.isContainer && field.2.holdsRaw := by
  rw [Datum.holdsRaw_record, publishedFields, List.any_map]
  refine List.any_congr rfl fun field => ?_
  exact Datum.holdsRaw_published field.2

end Report

/-- The data that a reason makes a report of: those that are its arguments, and further ones. -/
def Reason.dataOf : Reason → List Datum → Fields → Fields
  | .general, [_, _, .map entries, _, _], _ => .ofEntries entries
  | .insufficientStake, [verified, total], data =>
    Fields.merge
      [("verified_stake", .text verified.display), ("total_stake", .text total.display)] data
  | .limitExceeded, [resource, limit, got], _ =>
    [("resource", resource), ("limit", limit), ("got", got)]
  | .clientFrozen, [frozenHeight], data => Fields.merge [("frozen_height", frozenHeight)] data
  | .clientNotFound, [client], _ | .clientAlreadyExists, [client], _ => [("client_id", client)]
  | _, _, data => data

theorem Report.data_of_ofValues {reason : Reason} {values : List Datum} {data : Fields}
    {report : Report} (made : ofValues reason values data = .ok report) :
    report.data = publishedFields (reason.dataOf values data) := by
  unfold ofValues at made
  split at made
  all_goals cases made
  case h_8 message notGeneral notFrozen notMissing notTaken =>
    -- a reason with no argument but its message
    have plain : reason.dataOf [message] data = data := by
      cases reason <;> first | rfl | contradiction
    rw [plain]
    rfl
  all_goals rfl

/-- The cause that a reason makes a report with. Only a report under no particular reason can be
given one from the start. -/
def Reason.causeOf : Reason → List Datum → Option Cause
  | .general, [_, _, _, _, cause] => Cause.ofDatum? cause
  | _, _ => none

theorem Report.cause_of_ofValues {reason : Reason} {values : List Datum} {data : Fields}
    {report : Report} (made : ofValues reason values data = .ok report) :
    report.cause = reason.causeOf values := by
  unfold ofValues at made
  split at made
  all_goals cases made
  case h_8 message notGeneral notFrozen notMissing notTaken =>
    have causeless : reason.causeOf [message] = none := by
      cases reason <;> rfl
    rw [causeless]
    rfl
  all_goals rfl

theorem Reason.distinct_dataOf (reason : Reason) (values : List Datum) {data : Fields}
    (distinct : data.Distinct) : (reason.dataOf values data).Distinct := by
  unfold dataOf
  split
  · exact Fields.distinct_ofEntries _
  · refine Fields.Distinct.merge ?_ _
    exact (by decide : ["verified_stake", "total_stake"].Nodup)
  · exact (by decide : ["resource", "limit", "got"].Nodup)
  · refine Fields.Distinct.merge ?_ _
    exact List.pairwise_singleton _ _
  · exact List.pairwise_singleton _ _
  · exact List.pairwise_singleton _ _
  · exact distinct

theorem Parameter.distinct_of_bind? {parameters : List Parameter} {arguments : List Datum}
    {data : Fields} {values : List Datum} {rest : Fields} (distinct : data.Distinct)
    (bound : bind? parameters arguments data = some (values, rest)) : rest.Distinct := by
  induction parameters generalizing arguments data values with
  | nil =>
      cases arguments with
      | nil =>
          cases bound
          exact distinct
      | cons argument arguments => cases bound
  | cons parameter parameters ih =>
      cases arguments with
      | nil =>
          rw [bind?] at bound
          split at bound
          · cases bound
          · rcases Option.map_eq_some_iff.1 bound with ⟨⟨others, last⟩, bound, equal⟩
            cases equal
            exact ih (distinct.erase _) bound
      | cons argument arguments =>
          rw [bind?] at bound
          split at bound
          · cases bound
          · rcases Option.map_eq_some_iff.1 bound with ⟨⟨others, last⟩, bound, equal⟩
            cases equal
            exact ih distinct bound

/-- Arguments that a reason takes are bound to its parameters, and the report is made of them. -/
theorem Report.bind?_of_ofArguments {reason : Reason} {arguments : List Datum} {data : Fields}
    {report : Report} (made : ofArguments reason arguments data = .ok report) :
    ∃ values rest, Parameter.bind? reason.parameters arguments data = some (values, rest) ∧
      ofValues reason values rest = .ok report := by
  rw [ofArguments] at made
  split at made
  · cases made
  · next values rest bound =>
    split at made
    · cases made
    · exact ⟨values, rest, bound, made⟩

/-! ## Handling -/

/-- A change that a host makes to an error. -/
inductive Handling where
  /-- More data. -/
  | context (data : Fields)
  /-- A cause. -/
  | caused (cause : Cause)
  /-- More data, or a report under a reason if the error is none. -/
  | wrap (reason : Option Reason) (data : Fields)

namespace Handling

/-- The error with the change. -/
def apply (error : Raised) : Handling → Except RaiseFault Raised
  | context data => error.withContext data
  | caused cause => error.withCause cause
  | wrap reason data => error.wrap reason data

/-- The data that a report is extended by. -/
def data : Handling → Fields
  | context data => data
  | caused _ => []
  | wrap _ data => data.erase Raised.reasonName

/-- The cause that a report is given. -/
def cause? : Handling → Option Cause
  | caused cause => some cause
  | _ => none

/-- Whether no datum has a reserved name. -/
def isCallable : Handling → Bool
  | context data => (data.get? Reason.reservedName).isNone
  | caused _ => true
  | wrap _ data =>
    (data.get? Raised.errorName).isNone &&
      ((data.erase Raised.reasonName).get? Reason.reservedName).isNone

/-- All that a change does to a report. -/
theorem apply_reported (report : Report) (step : Handling) :
    step.apply (.reported report) =
      if step.isCallable then
        .ok (.reported { report with
          data := report.data.merge (Report.publishedFields step.data)
          cause := step.cause?.or report.cause })
      else .error .arguments := by
  cases step with
  | context data =>
      change (if (data.get? Reason.reservedName).isSome then _ else _) = _
      rw [isCallable]
      cases data.get? Reason.reservedName <;> rfl
  | caused cause => rfl
  | wrap reason data =>
      change (if (data.get? Raised.errorName).isSome then _
        else if ((data.erase Raised.reasonName).get? Reason.reservedName).isSome then _ else _) = _
      rw [isCallable]
      cases data.get? Raised.errorName with
      | some value => rfl
      | none => cases (data.erase Raised.reasonName).get? Reason.reservedName <;> rfl

end Handling

/-- The error after changes. -/
def Raised.handle (error : Raised) (steps : List Handling) : Except RaiseFault Raised :=
  steps.foldlM Handling.apply error

namespace Report

/-- What changes make of a report: their data are merged into its own, the last cause stays, and
all else is kept. -/
def handled (first : Report) (steps : List Handling) : Report :=
  { first with
    data := first.data.mergeAll (steps.map fun step => publishedFields step.data)
    cause := steps.foldl (fun cause step => step.cause?.or cause) first.cause }

/-- What a report publishes that was given data several times: the data that were given last, with
byte strings in hexadecimal and heights as text. Byte strings and heights are in it exactly if
they are in its message, in its truth value, or in a list or a map among these data. -/
structure Publishes (given : List Fields) (report : Report) : Prop where
  distinct : report.data.Distinct
  get?_data : ∀ name, report.data.get? name = (Fields.lastOf given name).map published
  bytes : ∀ name value, Fields.lastOf given name = some (.bytes value) →
    report.data.get? name = some (.text (toHex0x value))
  height : ∀ name height, Fields.lastOf given name = some (.object ⟨.height, height⟩) →
    report.data.get? name = some (.text (Height.text height))
  holdsRaw_iff : ∀ includeCause, (report.toDatum includeCause).holdsRaw ↔
    report.message.holdsRaw ∨ report.retryable.holdsRaw ∨
      ∃ name value, Fields.lastOf given name = some value ∧ value.isContainer ∧ value.holdsRaw

theorem publishes_of_data {report : Report} {given : Fields} {others : List Fields}
    (distinct : given.Distinct) (othersDistinct : ∀ other ∈ others, other.Distinct)
    (data : report.data = publishedFields (given.mergeAll others)) :
    Publishes (given :: others) report := by
  have merged := Fields.get?_mergeAll given othersDistinct
  have names := distinct.mergeAll others
  have values : ∀ name, report.data.get? name =
      (Fields.lastOf (given :: others) name).map published := by
    intro name
    rw [data, get?_publishedFields, merged]
  have left : (Datum.record report.data).holdsRaw ↔ ∃ name value,
      Fields.lastOf (given :: others) name = some value ∧ value.isContainer ∧ value.holdsRaw := by
    rw [data, holdsRaw_publishedFields, List.any_eq_true, Prod.exists]
    refine exists_congr fun name => exists_congr fun value => ?_
    rw [← merged, Fields.get?_eq_some_iff names, Bool.and_eq_true]
  refine ⟨?_, values, ?_, ?_, ?_⟩
  · rw [data]
    exact distinct_publishedFields names
  · intro name value last
    rw [values, last]
    rfl
  · intro name height last
    rw [values, last]
    rfl
  · intro includeCause
    rw [holdsRaw_toDatum, Bool.or_eq_true, Bool.or_eq_true, left]
    exact or_assoc.trans (or_congr_right or_comm)

theorem publishes_handled {first : Report} {given : Fields} {steps : List Handling}
    (distinct : given.Distinct) (stepsDistinct : ∀ step ∈ steps, step.data.Distinct)
    (data : first.data = publishedFields given) :
    (first.handled steps).Publishes (given :: steps.map Handling.data) := by
  refine publishes_of_data distinct (List.forall_mem_map.2 stepsDistinct) ?_
  rw [publishedFields_mergeAll, ← data, List.map_map]
  rfl

end Report

namespace Raised

/-- Changes that all can be made make of a report what was said. -/
theorem handle_reported (first : Report) (steps : List Handling) :
    handle (.reported first) steps =
      if steps.all Handling.isCallable then .ok (.reported (first.handled steps))
      else .error .arguments := by
  induction steps generalizing first with
  | nil => rfl
  | cons step steps ih =>
      rw [handle, List.foldlM_cons, Handling.apply_reported, List.all_cons]
      cases step.isCallable with
      | false => rfl
      | true => exact ih _

/-- An error of the host's own that is wrapped becomes a report, and then its cause. -/
theorem handle_foreign (cause : Cause) (wrapped : Option Reason) (data : Fields)
    (steps : List Handling) :
    handle (.foreign cause) (.wrap wrapped data :: steps) =
      if (data.get? errorName).isSome || wrapped.isNone && (data.get? reasonName).isSome then
        .error .arguments
      else
        (Report.ofArguments (wrapped.getD .internal)
            [.text (if cause.message = "" then cause.type else cause.message)]
            (data.erase reasonName)).bind
          fun first => handle (.reported first) (.caused cause :: steps) := by
  rw [handle, List.foldlM_cons, Handling.apply, wrap]
  dsimp only
  cases (data.get? errorName).isSome with
  | true => rfl
  | false =>
      cases wrapped.isNone && (data.get? reasonName).isSome with
      | true => rfl
      | false =>
          cases Report.ofArguments (wrapped.getD .internal)
              [.text (if cause.message = "" then cause.type else cause.message)]
              (data.erase reasonName) with
          | error fault => rfl
          | ok first => rfl

/-- Whatever data a report is made of and extended by, with or without causes in between, it keeps
its reason, code, message and truth value, and it publishes under every name what was given last.
So no byte string and no height is left in its data, unless the last value of a name is a list or
a map that holds one. An error of the host's own becomes such a report when it is wrapped, and
data that are given as one map are taken as they are. The cause that a report is made with stays
until it is given another. -/
theorem handle_publishes {reason : Reason} {arguments : List Datum} {data : Fields}
    {first : Report} (made : Report.ofArguments reason arguments data = .ok first)
    (distinct : data.Distinct) {steps : List Handling}
    (stepsDistinct : ∀ step ∈ steps, step.data.Distinct) :
    handle (.reported first) steps =
        (if steps.all Handling.isCallable then .ok (.reported (first.handled steps))
          else .error .arguments) ∧
      (∃ values rest, Parameter.bind? reason.parameters arguments data = some (values, rest) ∧
        first.cause = reason.causeOf values ∧
        (first.handled steps).Publishes (reason.dataOf values rest :: steps.map Handling.data)) ∧
      (∀ cause wrapped more, handle (.foreign cause) (.wrap wrapped more :: steps) =
        if (more.get? errorName).isSome || wrapped.isNone && (more.get? reasonName).isSome then
          .error .arguments
        else
          (Report.ofArguments (wrapped.getD .internal)
              [.text (if cause.message = "" then cause.type else cause.message)]
              (more.erase reasonName)).bind
            fun other => handle (.reported other) (.caused cause :: steps)) ∧
      ∀ code message retryable cause rest,
        Reason.general.dataOf [code, message, .record data, retryable, cause] rest = data := by
  refine ⟨handle_reported first steps, ?_, ?_, ?_⟩
  · rcases Report.bind?_of_ofArguments made with ⟨values, rest, bound, made⟩
    have restDistinct := Parameter.distinct_of_bind? distinct bound
    have given := reason.distinct_dataOf values restDistinct
    exact ⟨values, rest, bound, Report.cause_of_ofValues made,
      Report.publishes_handled given stepsDistinct (Report.data_of_ofValues made)⟩
  · intro cause wrapped more
    exact handle_foreign cause wrapped more steps
  · intro _ _ _ _ _
    exact Fields.ofEntries_named distinct

/-- A root and the height that it belongs to. -/
def given : Fields := [("root", .bytes [1, 2]), ("height", .object ⟨.height, ⟨0, 5⟩⟩)]

/-- The report that a proof does not match the root. -/
def mismatch : Report := .of .proofMismatch Reason.proofMismatch.defaultMessage given

/-- The root is given again, then the cause, and then the bytes of the steps. -/
def corrections : List Handling :=
  [.context [("root", .bytes [3])], .caused ⟨"ValueError", "short"⟩,
    .wrap none [("parts", .list [.bytes [1], .object ⟨.height, ⟨0, 5⟩⟩])]]

theorem distinct_corrections : ∀ step ∈ corrections, step.data.Distinct := by
  simp only [corrections, List.forall_mem_cons]
  exact ⟨List.pairwise_singleton _ _, List.Pairwise.nil, List.pairwise_singleton _ _, nofun⟩

/-- The report is handled, and it publishes what was given last. -/
theorem handle_publishes_sample :
    handle (.reported mismatch) corrections = .ok (.reported (mismatch.handled corrections)) ∧
      ∃ values rest, (mismatch.handled corrections).Publishes
        (Reason.proofMismatch.dataOf values rest :: corrections.map Handling.data) := by
  have made : Report.ofArguments .proofMismatch [] given = .ok mismatch := rfl
  have distinct : given.Distinct := (by decide : ["root", "height"].Nodup)
  rcases handle_publishes made distinct distinct_corrections with
    ⟨ran, ⟨values, rest, -, -, publishes⟩, -⟩
  exact ⟨ran, values, rest, publishes⟩

/-- The bytes and the height in the list are still there in the report as data. -/
theorem nested_bytes_survive :
    ∃ report, handle (.reported mismatch) corrections = .ok (.reported report) ∧
      report.data.get? "root" = some (.text "0x03") ∧
      report.data.get? "height" = some (.text "0-5") ∧
      report.data.get? "parts" = some (.list [.bytes [1], .object ⟨.height, ⟨0, 5⟩⟩]) ∧
      (report.toDatum false).holdsRaw = true :=
  ⟨mismatch.handled corrections, rfl, rfl, rfl, rfl, rfl⟩

end Raised

end Finality
