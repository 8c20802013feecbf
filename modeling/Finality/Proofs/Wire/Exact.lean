import Finality.Wire.Layout

/-!
# Reading nothing else

A reader is exact if every input that it accepts starts with the written form of the value
that it gives, so there is no second way of writing a value. `Reader.Exact` says this of a
reader and `Layout.Exact` of a layout, along with the fact that the layout has room for the
value. Exact parts make exact wholes.
-/

namespace Finality

variable {α γ : Type}

/-! ## Steps of a reader -/

namespace Reader

/-- A step that is followed by another one has succeeded if both of them together have. -/
theorem exists_of_bind {first : Reader α} {next : α → Reader γ} {cursor after : Cursor}
    {result : γ} (ran : (first >>= next) cursor = (.ok result, after)) :
    ∃ value middle, first cursor = (.ok value, middle) ∧
      next value middle = (.ok result, after) := by
  change (StateT.bind first (ExceptT.bindCont next)) cursor = _ at ran
  simp only [StateT.bind] at ran
  rcases firstRan : first cursor with ⟨outcome, middle⟩
  rw [firstRan] at ran
  cases outcome with
  | error fault => cases ran
  | ok value => exact ⟨value, middle, rfl, ran⟩

/-- Every value that `reader` gives `holds`, and it has taken the bytes that `write` writes. -/
def Exact (reader : Reader α) (write : α → Bytes) (holds : α → Prop) : Prop :=
  ∀ cursor value after, reader cursor = (.ok value, after) →
    holds value ∧ cursor.rest = write value ++ after.rest

/-- A step whose result decides how much the next one takes. -/
theorem Exact.bind {first : Reader α} {next : α → Reader γ} {write : α → Bytes}
    {writeNext : α → γ → Bytes} {holds : α → Prop} {holdsNext : α → γ → Prop}
    {writeResult : γ → Bytes} {holdsResult : γ → Prop} (firstExact : Exact first write holds)
    (nextExact : ∀ value, Exact (next value) (writeNext value) (holdsNext value))
    (assembled : ∀ value result, holds value → holdsNext value result →
      holdsResult result ∧ writeResult result = write value ++ writeNext value result) :
    Exact (first >>= next) writeResult holdsResult := by
  intro cursor result after ran
  rcases exists_of_bind ran with ⟨value, middle, firstRan, nextRan⟩
  obtain ⟨held, taken⟩ := firstExact cursor value middle firstRan
  obtain ⟨heldNext, takenNext⟩ := nextExact value middle result after nextRan
  obtain ⟨heldResult, written⟩ := assembled value result held heldNext
  refine ⟨heldResult, ?_⟩
  rw [taken, takenNext, written, List.append_assoc]

/-- A last step that takes nothing. -/
theorem Exact.andThen {first : Reader α} {next : α → Reader γ} {write : α → Bytes}
    {holds : α → Prop} {writeResult : γ → Bytes} {holdsResult : γ → Prop}
    (firstExact : Exact first write holds)
    (returned : ∀ value cursor result after, holds value →
      next value cursor = (.ok result, after) →
      after = cursor ∧ holdsResult result ∧ writeResult result = write value) :
    Exact (first >>= next) writeResult holdsResult := by
  intro cursor result after ran
  rcases exists_of_bind ran with ⟨value, middle, firstRan, nextRan⟩
  obtain ⟨held, taken⟩ := firstExact cursor value middle firstRan
  obtain ⟨rfl, heldResult, written⟩ := returned value middle result after held nextRan
  exact ⟨heldResult, by rw [taken, written]⟩

/-- Two items, one after the other, that are put together. -/
theorem Exact.join {β : α → Type} {first : Reader α} {next : (value : α) → Reader (β value)}
    {together : (value : α) → β value → γ} {write : α → Bytes}
    {writeNext : (value : α) → β value → Bytes} {holds : α → Prop}
    {holdsNext : (value : α) → β value → Prop} {writeResult : γ → Bytes}
    {holdsResult : γ → Prop} (firstExact : Exact first write holds)
    (nextExact : ∀ value, Exact (next value) (writeNext value) (holdsNext value))
    (held : ∀ value other, holds value → holdsNext value other →
      holdsResult (together value other))
    (written : ∀ value other,
      writeResult (together value other) = write value ++ writeNext value other) :
    Exact (do let value ← first; return together value (← next value)) writeResult
      holdsResult := by
  intro cursor result after ran
  rcases exists_of_bind ran with ⟨value, middle, firstRan, rest⟩
  rcases exists_of_bind rest with ⟨other, last, nextRan, returned⟩
  cases returned
  obtain ⟨firstHeld, taken⟩ := firstExact cursor value middle firstRan
  obtain ⟨nextHeld, takenNext⟩ := nextExact value middle other after nextRan
  refine ⟨held value other firstHeld nextHeld, ?_⟩
  rw [taken, takenNext, written, List.append_assoc]

/-! ## Single items -/

theorem exact_sized (size : Nat) : Exact (sized size) (·.val) (fun _ => True) := by
  intro cursor data after ran
  simp only [sized] at ran
  split at ran
  · cases ran
  · cases ran
    exact ⟨trivial, (List.take_append_drop size cursor.rest).symm⟩

theorem exact_take (count : Nat) :
    Exact (take count) id (fun data => data.length = count) := by
  refine (exact_sized count).andThen ?_
  intro data cursor result after _ returned
  cases returned
  exact ⟨rfl, data.property, rfl⟩

theorem exact_uint (width : Nat) :
    Exact (uint width) (leBytes width) (fun value => value < capacity width) := by
  refine (exact_take width).andThen ?_
  intro data cursor result after size returned
  cases returned
  subst size
  exact ⟨rfl, leValue_lt data, leBytes_leValue data⟩

theorem exact_bytes :
    Exact bytes (fun data => leBytes 4 data.length ++ data)
      (fun data => data.length < capacity 4) := by
  refine (exact_uint 4).bind exact_take ?_
  intro size data fits sameSize
  subst sameSize
  exact ⟨fits, rfl⟩

theorem exact_text :
    Exact Reader.text (fun text => leBytes 4 (utf8 text).length ++ utf8 text)
      (fun text => (utf8 text).length < capacity 4) := by
  refine exact_bytes.andThen ?_
  intro data cursor text after fits returned
  cases decoded : ofUtf8? data with
  | none =>
      rw [decoded] at returned
      cases returned
  | some other =>
      rw [decoded] at returned
      cases returned
      have sameBytes : utf8 text = data := ofUtf8?_eq_some_iff.1 decoded
      subst sameBytes
      exact ⟨rfl, fits, rfl⟩

/-! ## Sequences -/

theorem exact_items {item : Reader α} {write : α → Bytes} {holds : α → Prop}
    (exact : Exact item write holds) (count : Nat) :
    Exact (items item count) (fun values => values.flatMap write)
      (fun values => values.length = count ∧ ∀ value ∈ values, holds value) := by
  induction count with
  | zero =>
      intro cursor values after ran
      cases ran
      exact ⟨⟨rfl, by simp⟩, rfl⟩
  | succ count ih =>
      refine exact.join (fun _ => ih) ?_ fun value rest => List.flatMap_cons
      rintro value rest held ⟨counted, restHeld⟩
      exact ⟨congrArg Nat.succ counted, List.forall_mem_cons.2 ⟨held, restHeld⟩⟩

/-- The guard on the number of items takes nothing. -/
theorem checkCount_ok {count : Nat} {cursor after : Cursor}
    (ran : checkCount count cursor = (.ok (), after)) : after = cursor := by
  simp only [checkCount] at ran
  split at ran
  · cases ran
  · cases ran
    rfl

theorem exact_list {item : Reader α} {write : α → Bytes} {holds : α → Prop}
    (exact : Exact item write holds) :
    Exact (Reader.list item) (fun values => leBytes 4 values.length ++ values.flatMap write)
      (fun values => values.length < capacity 4 ∧ ∀ value ∈ values, holds value) := by
  have guarded : ∀ count, Exact (checkCount count >>= fun _ => items item count)
      (fun values => values.flatMap write)
      (fun values => values.length = count ∧ ∀ value ∈ values, holds value) := by
    intro count cursor values after ran
    rcases exists_of_bind ran with ⟨⟨⟩, middle, counted, itemsRan⟩
    rw [checkCount_ok counted] at itemsRan
    exact exact_items exact count cursor values after itemsRan
  refine (exact_uint 4).bind guarded ?_
  intro count values fits given
  rcases given with ⟨rfl, held⟩
  exact ⟨⟨fits, held⟩, rfl⟩

theorem exact_option {item : Reader α} {write : α → Bytes} {holds : α → Prop}
    (exact : Exact item write holds) :
    Exact (Reader.option item)
      (fun
        | none => leBytes 1 0
        | some value => leBytes 1 1 ++ write value)
      (fun value => ∀ content, value = some content → holds content) := by
  intro cursor result after ran
  rcases exists_of_bind ran with ⟨mark, middle, marked, rest⟩
  obtain ⟨-, taken⟩ := exact_uint 1 cursor mark middle marked
  match mark, rest with
  | 0, rest =>
      cases rest
      exact ⟨nofun, taken⟩
  | 1, rest =>
      rcases exists_of_bind rest with ⟨value, last, itemRan, returned⟩
      cases returned
      obtain ⟨held, takenItem⟩ := exact middle value after itemRan
      refine ⟨fun content equal => ?_, ?_⟩
      · cases equal
        exact held
      · rw [taken, takenItem, List.append_assoc]

/-! ## Whole inputs -/

/-- An input that is read as a whole is the written form of what it is read as. -/
theorem Exact.runOn {reader : Reader α} {write : α → Bytes} {holds : α → Prop}
    (exact : Exact reader write holds) {input : Bytes} {value : α}
    (ran : reader.runOn input = .ok value) : holds value ∧ write value = input := by
  rw [Reader.runOn] at ran
  rcases outcome : (do let value ← reader; finish; return value : Reader α) (Cursor.start input)
    with ⟨result, last⟩
  rw [outcome] at ran
  cases ran
  rcases exists_of_bind outcome with ⟨read, middle, readerRan, rest⟩
  rcases exists_of_bind rest with ⟨⟨⟩, closed, finished, returned⟩
  cases returned
  obtain ⟨held, taken⟩ := exact _ value middle readerRan
  simp only [finish] at finished
  split at finished
  · next empty =>
    rw [List.isEmpty_iff.1 empty, List.append_nil] at taken
    exact ⟨held, taken.symm⟩
  · cases finished

end Reader

/-! ## Layouts -/

namespace Layout

/-- Every input that the layout reads starts with the written form of a value that fits. -/
def Exact (layout : Layout α) : Prop := layout.read.Exact layout.write layout.Fits

theorem word_exact : word.Exact := by
  refine (Reader.exact_uint 8).andThen ?_
  intro value cursor result after fits returned
  cases returned
  have same : (UInt64.ofNat value).toNat = value := UInt64.toNat_ofNat_of_lt fits
  refine ⟨rfl, trivial, ?_⟩
  change leBytes 8 (UInt64.ofNat value).toNat = leBytes 8 value
  rw [same]

theorem uint_exact (width : Nat) : (uint width).Exact := Reader.exact_uint width

theorem sized_exact (size : Nat) : (sized size).Exact := Reader.exact_sized size

theorem hash_exact : hash.Exact := by
  refine (Reader.exact_sized hashSize).andThen ?_
  intro data cursor result after _ returned
  cases returned
  exact ⟨rfl, trivial, rfl⟩

theorem bytes_exact : bytes.Exact := Reader.exact_bytes

theorem text_exact : text.Exact := Reader.exact_text

theorem dependent_exact {β : α → Type} {first : Layout α}
    {second : (value : α) → Layout (β value)} (firstExact : first.Exact)
    (secondExact : ∀ value, (second value).Exact) : (dependent first second).Exact :=
  Reader.Exact.join firstExact secondExact (fun _ _ fits otherFits => ⟨fits, otherFits⟩)
    fun _ _ => rfl

theorem pair_exact {first : Layout α} {second : Layout γ} (firstExact : first.Exact)
    (secondExact : second.Exact) : (pair first second).Exact :=
  Reader.Exact.join firstExact (fun _ => secondExact)
    (fun _ _ fits otherFits => ⟨fits, otherFits⟩) fun _ _ => rfl

theorem option_exact {item : Layout α} (exact : item.Exact) : (option item).Exact := by
  intro cursor result after ran
  obtain ⟨held, taken⟩ := Reader.exact_option exact cursor result after ran
  cases result with
  | none => exact ⟨trivial, taken⟩
  | some value => exact ⟨held _ rfl, taken⟩

theorem list_exact {item : Layout α} (exact : item.Exact) : (list item).Exact :=
  Reader.exact_list exact

/-- Values that have the parts that they are built of make an exact layout. -/
theorem via_exact {layout : Layout α} {parts : γ → α} {build : α → Except FormFault γ}
    (exact : layout.Exact) (built : ∀ given value, build given = .ok value → parts value = given) :
    (layout.via parts build).Exact := by
  refine Reader.Exact.andThen exact ?_
  intro given cursor result after fits returned
  cases made : build given with
  | error fault =>
      rw [made] at returned
      cases returned
  | ok value =>
      rw [made] at returned
      cases returned
      have same := built given _ made
      subst same
      exact ⟨rfl, fits, rfl⟩

end Layout

end Finality
