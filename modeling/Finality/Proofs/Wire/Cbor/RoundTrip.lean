import Finality.Proofs.Wire.Cbor.Items
import Finality.Proofs.Wire.Cbor.Settled

/-!
# Canonical CBOR is read back

Messages are made of plain data: no value, truth values, integers, texts, byte strings,
lists, and maps with distinct texts as keys (`Datum.Plain`). What is written for plain data
is read back in full, and what is read is the datum with its maps sorted
(`read?_write`). The reader needs no more steps than three for each byte, and no item is
deeper than the bound that `Datum.Plain` carries along.
-/

namespace Finality

/-- A datum that messages are made of, where containers and long integers nest at most `depth`
deep. -/
inductive Datum.Plain : Nat → Datum → Prop where
  | null {depth : Nat} : Plain depth .null
  | bool {depth : Nat} (value : Bool) : Plain depth (.bool value)
  | int {depth : Nat} (value : Int) : Plain (depth + 1) (.int value)
  | text {depth : Nat} (value : String) : Plain depth (.text value)
  | bytes {depth : Nat} (value : Bytes) : Plain depth (.bytes value)
  | list {depth : Nat} {items : List Datum} (each : ∀ item ∈ items, Plain depth item) :
      Plain (depth + 1) (.list items)
  | map {depth : Nat} {entries : List (Datum × Datum)} (keys : TextKeys entries)
      (each : ∀ entry ∈ entries, Plain depth entry.2) : Plain (depth + 1) (.map entries)

namespace Cbor

/-- What is written for a datum is read as the settled datum, with three steps for each byte. -/
def ReadsBack [Host] (depth : Nat) (datum : Datum) : Prop :=
  ∀ fuel (memory : Memory) rest, 3 * (write datum).length ≤ fuel → memory.strings = none →
    readItem false depth fuel memory (write datum ++ rest) = some (datum.settled, memory, rest)

/-! ## Containers -/

variable {depth : Nat} {memory : Memory}

theorem readItems_of_readsBack [Host] {items : List Datum}
    (each : ∀ item ∈ items, ReadsBack depth item ∧ 0 < (write item).length)
    (unnumbered : memory.strings = none) (width : Nat) (rest : Bytes) {fuel : Nat}
    (enough : 3 * ((items.map write).flatten).length + 1 ≤ fuel) :
    readItems false depth fuel (.number width items.length) memory
        ((items.map write).flatten ++ rest) =
      some (items.map Datum.settled, memory, rest) := by
  induction items generalizing fuel with
  | nil =>
      cases fuel with
      | zero => omega
      | succ fuel => rfl
  | cons item items ih =>
      rcases List.forall_mem_cons.1 each with ⟨⟨readsBack, visible⟩, restEach⟩
      rw [List.map_cons, List.flatten_cons, List.length_append] at enough
      cases fuel with
      | zero => omega
      | succ fuel =>
          have head := readsBack fuel memory ((items.map write).flatten ++ rest) (by omega)
            unnumbered
          have tail := ih restEach (by omega : 3 * ((items.map write).flatten).length + 1 ≤ fuel)
          rw [List.map_cons, List.flatten_cons, List.append_assoc, List.length_cons, readItems]
          · simp only [head, Argument.fewer, Nat.add_sub_cancel, tail, Option.map_some,
              List.map_cons]
          · nofun
          · nofun

/-- The written form of an entry, key first. -/
def entryBytes (entry : Datum × Datum) : Bytes := write entry.1 ++ write entry.2

theorem length_write_text_pos (name : String) : 0 < (write (.text name)).length := by
  rw [write, writeText, List.length_append]
  exact Nat.add_pos_left (length_writeHead_pos _ _) _

/-- The entries of a map are added to those before, one after the other. -/
theorem readEntries_of_readsBack [Host] {entries : List (Datum × Datum)}
    (done : List (Datum × Datum))
    (keys : Datum.TextKeys (done ++ entries)) (holds : ∀ entry ∈ entries, fits entry.1 = true)
    (each : ∀ entry ∈ entries, ReadsBack depth entry.2) (unnumbered : memory.strings = none)
    (width : Nat) (rest : Bytes) {fuel : Nat}
    (enough : 3 * ((entries.map entryBytes).flatten).length + 1 ≤ fuel) :
    readEntries false depth fuel done (.number width entries.length) memory
        ((entries.map entryBytes).flatten ++ rest) =
      some (done ++ entries.map Datum.settledEntry, memory, rest) := by
  induction entries generalizing done fuel with
  | nil =>
      cases fuel with
      | zero => omega
      | succ fuel =>
          rw [List.map_nil, List.map_nil, List.append_nil]
          rfl
  | cons entry entries ih =>
      rcases entry with ⟨key, value⟩
      rcases List.forall_mem_cons.1 each with ⟨readsBack, restEach⟩
      rcases List.forall_mem_cons.1 holds with ⟨keyHolds, restHolds⟩
      rcases keys.texts key (by simp) with ⟨name, rfl⟩
      have short : (utf8 name).length < capacity 8 := by simpa [fits] using keyHolds
      rw [List.append_cons] at keys
      have inserted : Datum.insertEntry (.text name) value.settled done =
          done ++ [(.text name, value.settled)] := keys.left.insertEntry_eq_append
      have restKeys : Datum.TextKeys ((done ++ [(.text name, value.settled)]) ++ entries) := by
        apply keys.perm
        simp
      have visible := length_write_text_pos name
      have flat : ((((.text name, value) :: entries).map entryBytes).flatten ++ rest) =
          writeText name ++ (write value ++ ((entries.map entryBytes).flatten ++ rest)) := by
        simp only [List.map_cons, List.flatten_cons, entryBytes, write, List.append_assoc]
      simp only [List.map_cons, List.flatten_cons, List.length_append, entryBytes] at enough
      cases fuel with
      | zero => omega
      | succ fuel =>
          cases fuel with
          | zero => omega
          | succ fuel =>
              have readKey := @readItem_writeText _ true depth fuel memory name short unnumbered
                (write value ++ ((entries.map entryBytes).flatten ++ rest))
              have readValue := readsBack (fuel + 1) memory
                ((entries.map entryBytes).flatten ++ rest) (by simp only; omega) unnumbered
              have tail := ih (done ++ [(.text name, value.settled)]) restKeys restHolds restEach
                (by omega : 3 * ((entries.map entryBytes).flatten).length + 1 ≤ fuel + 1)
              rw [flat, List.length_cons, readEntries]
              · simp only [readKey, readValue, Datum.isKey, if_true, inserted, Argument.fewer,
                  Nat.add_sub_cancel, tail, List.map_cons, Datum.settledEntry,
                  List.append_assoc, List.singleton_append]
              · nofun
              · nofun

/-! ## Plain data -/

theorem fitsItems_iff {items : List Datum} :
    fitsItems items = true ↔ ∀ item ∈ items, fits item = true := by
  induction items with
  | nil => simp [fitsItems]
  | cons item items ih => rw [fitsItems, Bool.and_eq_true, ih, List.forall_mem_cons]

theorem fitsEntries_iff {entries : List (Datum × Datum)} :
    fitsEntries entries = true ↔
      ∀ entry ∈ entries, fits entry.1 = true ∧ fits entry.2 = true := by
  induction entries with
  | nil => simp [fitsEntries]
  | cons entry entries ih =>
      rw [fitsEntries, Bool.and_eq_true, Bool.and_eq_true, ih, List.forall_mem_cons]

theorem length_writeInt_pos (value : Int) : 0 < (writeInt value).length := by
  rw [writeInt]
  split
  · exact length_writeHead_pos _ _
  · rw [List.length_append]
    exact Nat.add_pos_left (length_writeHead_pos _ _) _

theorem write_list (items : List Datum) :
    write (.list items) = writeHead .array items.length ++ (items.map write).flatten := by
  rw [write, writeItems_eq_map]

/-- A map is written by its sorted entries. -/
theorem write_map (entries : List (Datum × Datum)) :
    write (.map entries) =
      writeHead .map entries.length ++ ((sortKeys entries).map entryBytes).flatten := by
  rw [write, sortEntries_writeEntries, List.flatMap_map]
  rfl

theorem length_write_pos {datum : Datum} (plain : Datum.Plain depth datum) :
    0 < (write datum).length := by
  cases plain with
  | null => decide
  | bool value => cases value <;> decide
  | int value => exact length_writeInt_pos value
  | text value => exact length_write_text_pos value
  | bytes value =>
      rw [write, writeBytes, List.length_append]
      exact Nat.add_pos_left (length_writeHead_pos _ _) _
  | list each =>
      rw [write_list, List.length_append]
      exact Nat.add_pos_left (length_writeHead_pos _ _) _
  | map keys each =>
      rw [write_map, List.length_append]
      exact Nat.add_pos_left (length_writeHead_pos _ _) _

/-- Plain data whose lengths fit are read back. The induction is on how the data is plain, so
each container has less depth left for what is inside. -/
theorem readsBack_of_plain [Host] {datum : Datum} (plain : Datum.Plain depth datum)
    (holds : fits datum = true) : ReadsBack depth datum := by
  induction plain with
  | null =>
      intro fuel memory rest enough unnumbered
      cases fuel with
      | zero => simp [write] at enough
      | succ fuel => rfl
  | bool value =>
      intro fuel memory rest enough unnumbered
      cases fuel with
      | zero => simp [write] at enough
      | succ fuel => cases value <;> rfl
  | int value =>
      intro fuel memory rest enough unnumbered
      have visible := length_writeInt_pos value
      have short : (naturalBytes (magnitude value)).length < capacity 8 := by
        simpa [fits] using holds
      rw [write] at enough ⊢
      obtain ⟨fuel, rfl⟩ : ∃ less, fuel = less + 3 := ⟨fuel - 3, by omega⟩
      exact readItem_writeInt short unnumbered rest
  | text value =>
      intro fuel memory rest enough unnumbered
      have visible := length_write_text_pos value
      have short : (utf8 value).length < capacity 8 := by simpa [fits] using holds
      obtain ⟨fuel, rfl⟩ : ∃ less, fuel = less + 1 := ⟨fuel - 1, by omega⟩
      exact readItem_writeText short unnumbered rest
  | bytes value =>
      intro fuel memory rest enough unnumbered
      have visible := length_write_pos (@Datum.Plain.bytes 0 value)
      have short : value.length < capacity 8 := by simpa [fits] using holds
      obtain ⟨fuel, rfl⟩ : ∃ less, fuel = less + 1 := ⟨fuel - 1, by omega⟩
      exact readItem_writeBytes short unnumbered rest
  | @list depth items each ih =>
      intro fuel memory rest enough unnumbered
      rw [fits, Bool.and_eq_true, fitsItems_iff, decide_eq_true_eq] at holds
      rcases holds with ⟨short, itemsHold⟩
      rw [write_list, List.length_append] at enough
      have visible := length_writeHead_pos .array items.length
      obtain ⟨fuel, rfl⟩ : ∃ less, fuel = less + 1 := ⟨fuel - 1, by omega⟩
      rcases readHead_writeHead .array short ((items.map write).flatten ++ rest) with ⟨width, head⟩
      have read := @readItems_of_readsBack depth memory _ items
        (fun item member => ⟨ih item member (itemsHold item member),
          length_write_pos (each item member)⟩)
        unnumbered width rest fuel (by omega)
      rw [write_list, List.append_assoc, readItem, head]
      simp only [read, Option.map_some, Bool.false_eq_true, if_false, Datum.settled_list]
  | @map depth entries keys each ih =>
      intro fuel memory rest enough unnumbered
      rw [fits, Bool.and_eq_true, fitsEntries_iff, decide_eq_true_eq] at holds
      rcases holds with ⟨short, entriesHold⟩
      have permuted := sortKeys_perm entries
      rw [write_map, List.length_append] at enough
      have visible := length_writeHead_pos .map entries.length
      obtain ⟨fuel, rfl⟩ : ∃ less, fuel = less + 1 := ⟨fuel - 1, by omega⟩
      rcases readHead_writeHead .map short (((sortKeys entries).map entryBytes).flatten ++ rest)
        with ⟨width, head⟩
      have read := @readEntries_of_readsBack depth memory _ (sortKeys entries) []
        (keys.perm (permuted.map _))
        (fun entry member => (entriesHold entry (permuted.mem_iff.1 member)).1)
        (fun entry member => ih entry (permuted.mem_iff.1 member)
          (entriesHold entry (permuted.mem_iff.1 member)).2)
        unnumbered width rest fuel (by omega)
      rw [permuted.length_eq] at read
      rw [write_map, List.append_assoc, readItem, head]
      simp only [read, Option.map_some, Bool.false_eq_true, if_false, List.nil_append,
        Datum.settled_map, Datum.sortKeys_settledEntry]

/-- Plain data that are not too deep and whose lengths fit are read back in full. -/
theorem read?_write [Host] {datum : Datum} (plain : Datum.Plain Host.cborDepth datum)
    (holds : fits datum = true) : read? (write datum) = some datum.settled := by
  have read := readsBack_of_plain plain holds (3 * (write datum).length + 3) {} [] (by omega) rfl
  rw [List.append_nil] at read
  rw [read?, read, Option.map_some]

end Cbor

end Finality
