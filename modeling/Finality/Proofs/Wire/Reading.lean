import Finality.Wire.Layout

/-!
# Reading what was written

A reader undoes a written item if it takes exactly the item's bytes and gives its
value, whatever stands behind them. `Reader.Reads` says this of one item, and
`Layout.Faithful` of all values that a layout has room for. Faithful parts make
faithful wholes, so the layout of a record needs no argument of its own.
-/

namespace Finality

variable {α β : Type}

namespace Reader

/-- Running `reader` on `written` in front of any further bytes takes exactly `written`
and gives `value`. -/
def Reads (reader : Reader α) (written : Bytes) (value : α) : Prop :=
  ∀ offset rest, reader ⟨offset, written ++ rest⟩ =
    (.ok value, ⟨offset + written.length, rest⟩)

theorem bind_of_ok {ε σ : Type} {first : ExceptT ε (StateM σ) α}
    {next : α → ExceptT ε (StateM σ) β} {state after : σ} {value : α}
    (ran : first state = (.ok value, after)) : (first >>= next) state = next value after := by
  change (StateT.bind first (ExceptT.bindCont next)) state = _
  simp only [StateT.bind]
  rw [ran]
  rfl

theorem bind_of_error {ε σ : Type} {first : ExceptT ε (StateM σ) α}
    {next : α → ExceptT ε (StateM σ) β} {state after : σ} {fault : ε}
    (ran : first state = (.error fault, after)) :
    (first >>= next) state = (.error fault, after) := by
  change (StateT.bind first (ExceptT.bindCont next)) state = _
  simp only [StateT.bind]
  rw [ran]
  rfl

theorem reads_pure (value : α) : Reads (pure value) [] value := by
  intro offset rest
  rfl

theorem Reads.bind {first : Reader α} {next : α → Reader β} {head tail : Bytes}
    {value : α} {result : β} (headRead : Reads first head value)
    (tailRead : Reads (next value) tail result) :
    Reads (first >>= next) (head ++ tail) result := by
  intro offset rest
  rw [List.append_assoc, bind_of_ok (headRead offset (tail ++ rest)),
    tailRead (offset + head.length) rest, List.length_append, Nat.add_assoc]

/-- A last step that takes nothing leaves the bytes of the step before. -/
theorem Reads.andThen {first : Reader α} {next : α → Reader β} {written : Bytes}
    {value : α} {result : β} (read : Reads first written value)
    (returned : next value = pure result) :
    Reads (first >>= next) written result := by
  have both := read.bind (returned ▸ reads_pure result)
  rwa [List.append_nil] at both

/-! ## Single items -/

theorem reads_sized {size : Nat} (data : { data : Bytes // data.length = size }) :
    Reads (sized size) data.val data := by
  intro offset rest
  rcases data with ⟨data, rfl⟩
  have enough : ¬(data ++ rest).length < data.length := by simp
  simp only [sized, enough, ↓reduceDIte, List.take_left, List.drop_left]

theorem reads_take (data : Bytes) : Reads (take data.length) data data :=
  (reads_sized ⟨data, rfl⟩).andThen rfl

theorem reads_uint {width value : Nat} (fits : value < capacity width) :
    Reads (uint width) (leBytes width value) value := by
  have taken := reads_take (leBytes width value)
  rw [length_leBytes] at taken
  refine taken.andThen ?_
  rw [leValue_leBytes_of_lt fits]

theorem reads_bytes {data : Bytes} (fits : data.length < capacity 4) :
    Reads bytes (leBytes 4 data.length ++ data) data :=
  (reads_uint fits).bind (reads_take data)

theorem reads_text {text : String} (fits : (utf8 text).length < capacity 4) :
    Reads Reader.text (leBytes 4 (utf8 text).length ++ utf8 text) text := by
  refine (reads_bytes fits).andThen ?_
  rw [ofUtf8?_utf8]

theorem reads_option_none (item : Reader α) :
    Reads (Reader.option item) (leBytes 1 0) none :=
  (reads_uint (by decide : 0 < capacity 1)).andThen rfl

theorem reads_option_some {item : Reader α} {written : Bytes} {value : α}
    (read : Reads item written value) :
    Reads (Reader.option item) (leBytes 1 1 ++ written) (some value) :=
  (reads_uint (by decide : 1 < capacity 1)).bind (read.andThen rfl)

/-! ## Sequences -/

theorem reads_items {item : Reader α} {write : α → Bytes} {values : List α}
    (read : ∀ value ∈ values, Reads item (write value) value) :
    Reads (items item values.length) (values.flatMap write) values := by
  induction values with
  | nil => exact reads_pure []
  | cons value values ih =>
      have restRead := ih fun other member => read other (List.mem_cons_of_mem _ member)
      exact (read value List.mem_cons_self).bind (restRead.andThen rfl)

/-- Items of at least one byte each are no more than the bytes they take, so the guard
on the number of items lets them pass. -/
theorem length_le_flatMap {write : α → Bytes} {values : List α}
    (nonempty : ∀ value, write value ≠ []) :
    values.length ≤ (values.flatMap write).length := by
  induction values with
  | nil => simp
  | cons value values ih =>
      have positive := List.length_pos_iff.2 (nonempty value)
      simp only [List.length_cons, List.flatMap_cons, List.length_append]
      omega

theorem reads_list {item : Reader α} {write : α → Bytes} {values : List α}
    (fits : values.length < capacity 4) (nonempty : ∀ value, write value ≠ [])
    (read : ∀ value ∈ values, Reads item (write value) value) :
    Reads (Reader.list item) (leBytes 4 values.length ++ values.flatMap write) values := by
  refine (reads_uint fits).bind ?_
  intro offset rest
  have counted : checkCount values.length ⟨offset, values.flatMap write ++ rest⟩ =
      (.ok (), ⟨offset, values.flatMap write ++ rest⟩) := by
    have bound : values.length ≤ (values.flatMap write).length := length_le_flatMap nonempty
    have enough : ¬(values.flatMap write ++ rest).length < values.length := by
      rw [List.length_append]
      omega
    simp only [checkCount, enough, ↓reduceIte]
  rw [bind_of_ok counted]
  exact reads_items read offset rest

/-! ## Whole inputs -/

theorem Reads.runOn {reader : Reader α} {written : Bytes} {value : α}
    (read : Reads reader written value) : reader.runOn written = .ok value := by
  have ran := read 0 []
  rw [List.append_nil] at ran
  rw [Reader.runOn, Cursor.start, bind_of_ok ran]
  rfl

end Reader

namespace Layout

/-- Every value that the layout has room for is read back from its bytes. -/
def Faithful (layout : Layout α) : Prop :=
  ∀ value, layout.Fits value → Reader.Reads layout.read (layout.write value) value

/-- No value of the layout is written without bytes. -/
def Visible (layout : Layout α) : Prop := ∀ value, layout.write value ≠ []

theorem word_faithful : word.Faithful := by
  intro value _
  have fits : value.toNat < capacity 8 := value.toNat_lt
  refine (Reader.reads_uint fits).andThen ?_
  rw [UInt64.ofNat_toNat]

theorem uint_faithful (width : Nat) : (uint width).Faithful :=
  fun _ fits => Reader.reads_uint fits

theorem sized_faithful (size : Nat) : (sized size).Faithful :=
  fun data _ => Reader.reads_sized data

theorem hash_faithful : hash.Faithful := by
  intro hash _
  exact (Reader.reads_sized ⟨hash.bytes, hash.size_eq⟩).andThen rfl

theorem bytes_faithful : bytes.Faithful :=
  fun _ fits => Reader.reads_bytes fits

theorem text_faithful : text.Faithful :=
  fun _ fits => Reader.reads_text fits

theorem dependent_faithful {β : α → Type} {first : Layout α}
    {second : (value : α) → Layout (β value)} (firstFaithful : first.Faithful)
    (secondFaithful : ∀ value, (second value).Faithful) :
    (dependent first second).Faithful := by
  rintro ⟨value, other⟩ ⟨fits, otherFits⟩
  exact (firstFaithful value fits).bind ((secondFaithful value other otherFits).andThen rfl)

theorem pair_faithful {first : Layout α} {second : Layout β}
    (firstFaithful : first.Faithful) (secondFaithful : second.Faithful) :
    (pair first second).Faithful := by
  rintro ⟨value, other⟩ ⟨fits, otherFits⟩
  exact (firstFaithful value fits).bind ((secondFaithful other otherFits).andThen rfl)

theorem option_faithful {item : Layout α} (faithful : item.Faithful) :
    (option item).Faithful := by
  intro value fits
  cases value with
  | none => exact Reader.reads_option_none item.read
  | some value => exact Reader.reads_option_some (faithful value fits)

theorem list_faithful {item : Layout α} (faithful : item.Faithful)
    (visible : item.Visible) : (list item).Faithful := by
  rintro values ⟨fits, allFit⟩
  exact Reader.reads_list fits visible fun value member =>
    faithful value (allFit value member)

/-- Parts that build the value they were taken from make a faithful layout. -/
theorem via_faithful {layout : Layout α} {parts : β → α} {build : α → Except FormFault β}
    (faithful : layout.Faithful) (rebuilt : ∀ value, build (parts value) = .ok value) :
    (layout.via parts build).Faithful := by
  intro value fits
  refine (faithful (parts value) fits).andThen ?_
  rw [rebuilt value]

end Layout

end Finality
