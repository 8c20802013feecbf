import Finality.Client.Operations
import Finality.Proofs.Store.FiniteMap

/-!
# What a request does to a store

A request is carried out on the content of a store, and what it decides to write is
committed to the backend. The two backends write in different ways, but on either the
content afterwards is the old one with the changes applied (`Store.commit_ok`). So an open
store stays open, its content follows `Request.effect`, and the answer is the one that
`Request.run` gives on the content (`Store.submit_ok`). `Store.after` is the store after
any number of requests.
-/

namespace Finality

/-! ## Records in the order in which their keys came -/

namespace Records

/-- With distinct keys, a map has exactly the entries that it is made of. -/
theorem get?_ofEntries_eq_some_iff {entries : List (Bytes × Bytes)}
    (distinct : (entries.map (·.1)).Nodup) {key value : Bytes} :
    (ofEntries entries).get? key = some value ↔ (key, value) ∈ entries := by
  have asChanges : ofEntries entries =
      empty.applyAll (entries.map fun entry => .put entry.1 entry.2) := by
    rw [ofEntries, applyAll, List.foldl_map]
    rfl
  rw [asChanges]
  have onlyMember : ∀ other, (key, other) ∈ entries →
      (empty.applyAll (entries.map fun entry => .put entry.1 entry.2)).get? key =
        some other := by
    intro other member
    refine get?_applyAll_of_touched
      ⟨_, List.mem_map.2 ⟨(key, other), member, rfl⟩, rfl⟩ ?_
    intro write written sameKey
    rcases List.mem_map.1 written with ⟨entry, entryMember, rfl⟩
    rw [List.inj_on_of_nodup_map distinct entryMember member sameKey]
    rfl
  constructor
  · intro found
    by_cases present : ∃ other, (key, other) ∈ entries
    · rcases present with ⟨other, member⟩
      rw [onlyMember other member] at found
      exact Option.some.inj found ▸ member
    · rw [get?_applyAll_of_untouched] at found
      · cases found
      · intro write written sameKey
        rcases List.mem_map.1 written with ⟨entry, entryMember, rfl⟩
        exact present ⟨entry.2, by rw [← sameKey]; exact entryMember⟩
  · exact onlyMember value

end Records

namespace Memory

theorem get?_content (memory : Memory) (key : Bytes) :
    memory.content.get? key = memory.get? key := by
  refine Option.ext fun value => ?_
  have read : memory.get? key = some value ↔ (key, value) ∈ memory.entries :=
    Entries.value?_eq_some_iff memory.distinct
  exact (Records.get?_ofEntries_eq_some_iff memory.distinct).trans read.symm

theorem value?_putEntry (key value : Bytes) (entries : Entries Bytes) (other : Bytes) :
    Entries.value? (putEntry key value entries) other =
      if key = other then some value else entries.value? other := by
  induction entries with
  | nil => exact Entries.value?_cons (key, value) [] other
  | cons head entries ih =>
      rcases head with ⟨known, old⟩
      rw [putEntry]
      split
      · next overwritten =>
        subst overwritten
        rw [Entries.value?_cons, Entries.value?_cons]
        by_cases same : key = other <;> simp [same]
      · next differs =>
        rw [Entries.value?_cons, Entries.value?_cons, ih]
        by_cases same : known = other
        · have apart : key ≠ other := fun equal => differs (equal.trans same.symm)
          simp [same, apart]
        · simp [same]

/-- A change sets the value of its key and no other. -/
theorem get?_apply (memory : Memory) (write : Write) (key : Bytes) :
    (memory.apply write).get? key =
      if write.key = key then write.value? else memory.get? key := by
  cases write with
  | put other value => exact value?_putEntry other value memory.entries key
  | delete other => exact Entries.value?_filter_ne other memory.entries key

/-- The map that a memory stands for changes as the memory does. -/
theorem content_apply (memory : Memory) (write : Write) :
    (memory.apply write).content = memory.content.apply write := by
  refine Records.ext_get? fun key => ?_
  rw [get?_content, get?_apply, Records.get?_apply, get?_content]

theorem content_foldl_apply (memory : Memory) (writes : List Write) :
    (writes.foldl apply memory).content = memory.content.applyAll writes := by
  induction writes generalizing memory with
  | nil => rfl
  | cons write writes ih =>
      rw [List.foldl_cons, ih, content_apply]
      rfl

end Memory

theorem Table.content_foldl_apply (table : Table) (writes : List Write) :
    (writes.foldl Table.apply table).content = table.content.applyAll writes := by
  induction writes generalizing table with
  | nil => rfl
  | cons write writes ih =>
      rw [List.foldl_cons, ih]
      rfl

namespace Store

/-- A store whose block is open, after writes in it, and the batch. A memory has them staged;
a table has made them and keeps the rows from before. -/
def during (store : Store) (writes : List Write) : Store × Batch :=
  match store with
  | memory known => (memory known, .memory (some writes))
  | table kind known => (table kind (writes.foldl Table.apply known), .table (some known.rows))
  | closed kind known => (closed kind known, .table none)

variable {store : Store} {records : Records}

/-! ## Batches -/

theorem during_nil (store : Store) : (store.during []).1 = store := by
  cases store with
  | memory memory => rfl
  | table kind table => rfl
  | closed kind table => rfl

theorem enter_batch (opened : store.content? = some records) :
    store.enter store.batch = .ok (store.during []).2 := by
  cases store with
  | memory memory => rfl
  | table kind table => rfl
  | closed kind table => cases opened

theorem write_during (opened : store.content? = some records) (writes : List Write)
    (change : Write) :
    (store.during writes).1.write (store.during writes).2 change =
      .ok (store.during (writes ++ [change])) := by
  cases store with
  | memory memory => rfl
  | table kind table =>
      simp only [during, List.foldl_append]
      rfl
  | closed kind table => cases opened

/-- A write in an open block never fails. -/
theorem writeAll_during (opened : store.content? = some records) (made writes : List Write) :
    (store.during made).1.writeAll (store.during made).2 writes =
      (store.during (made ++ writes), .ok ()) := by
  induction writes generalizing made with
  | nil => rw [List.append_nil, writeAll]
  | cons change rest ih =>
      rw [writeAll, write_during opened]
      refine (ih (made ++ [change])).trans ?_
      rw [List.append_assoc, List.singleton_append]

/-- Leaving a block cleanly makes its writes, leaving it by an error makes none. -/
theorem leave_during (opened : store.content? = some records) (writes : List Write)
    (clean : Bool) :
    ∃ next, (store.during writes).1.leave (store.during writes).2 clean = (next, store.batch) ∧
      next.batch = store.batch ∧
      next.content? = some (if clean then records.applyAll writes else records) := by
  cases store with
  | memory memory =>
      cases opened
      cases clean with
      | false => exact ⟨_, rfl, rfl, rfl⟩
      | true =>
          exact ⟨_, rfl, rfl, congrArg some (Memory.content_foldl_apply memory writes)⟩
  | table kind table =>
      cases opened
      cases clean with
      | false => exact ⟨_, rfl, rfl, rfl⟩
      | true =>
          exact ⟨_, rfl, rfl, congrArg some (Table.content_foldl_apply table writes)⟩
  | closed kind table => cases opened

/-- An open store takes every batch of changes. -/
theorem commit_ok (opened : store.content? = some records) (writes : List Write) :
    ∃ next, store.commit writes = (next, .ok ()) ∧
      next.content? = some (records.applyAll writes) := by
  have written := writeAll_during opened [] writes
  rw [during_nil, List.nil_append] at written
  rcases leave_during opened writes true with ⟨next, left, -, nextContent⟩
  refine ⟨next, ?_, nextContent⟩
  rw [commit, enter_batch opened]
  simp only [written, Except.isOk, Except.toBool, left]

/-- A read of an open store is one of its content. -/
theorem read_eq (opened : store.content? = some records) (client : ClientId) (query : Query) :
    store.read client query = query.run client records := by
  rw [read, content, opened]
  rfl

variable [Signing]

/-- A request to an open store has the answer and the effect that it has on the content. -/
theorem submit_ok (opened : store.content? = some records) (request : Request) :
    (store.submit request).1.content? = some (request.effect records) ∧
      (store.submit request).2 = (request.run records).map Accepted.result := by
  have content : store.content = .ok records := by
    rw [Store.content, opened]
  rw [submit, Request.effect, content]
  cases ran : request.run records with
  | error failure =>
      simp only [bind, Except.bind, ran]
      exact ⟨opened, rfl⟩
  | ok accepted =>
      rcases commit_ok opened accepted.writes with ⟨next, committed, nextContent⟩
      simp only [bind, Except.bind, ran, commitFor, committed]
      exact ⟨nextContent, rfl⟩

/-- The answer to a request is what it makes of the outcome of its call. -/
theorem snd_submit_of_run {α : Type} {request : Request} {outcome : Outcome α}
    {read : α → Reply} {writes : α → List Write} (opened : store.content? = some records)
    (runs : request.run records = outcome >>= fun result => .ok ⟨read result, writes result⟩) :
    (store.submit request).2 = outcome.map read := by
  rw [(submit_ok opened request).2, runs]
  cases outcome with
  | error failure => rfl
  | ok result => rfl

theorem snd_submit_eq_ok_iff {request : Request} {reply : Reply}
    (opened : store.content? = some records) :
    (store.submit request).2 = .ok reply ↔ ∃ writes, request.run records = .ok ⟨reply, writes⟩ := by
  rw [(submit_ok opened request).2]
  cases request.run records with
  | error failure =>
      constructor
      · intro answered
        cases answered
      · rintro ⟨writes, ran⟩
        cases ran
  | ok accepted =>
      constructor
      · intro answered
        cases answered
        exact ⟨accepted.writes, rfl⟩
      · rintro ⟨writes, ran⟩
        cases ran
        rfl

theorem submit_error {request : Request} {failure : Failure}
    (opened : store.content? = some records) (failed : request.run records = .error failure) :
    store.submit request = (store, .error failure) := by
  have content : store.content = .ok records := by
    rw [Store.content, opened]
  rw [submit, content]
  simp only [bind, Except.bind, failed]

/-- A request that fails leaves the store itself alone: a call fails before its block is entered,
and the block of an open store is carried through. -/
theorem fst_submit_of_error {request : Request} {failure : Failure}
    (failed : (store.submit request).2 = .error failure) : (store.submit request).1 = store := by
  cases opened : store.content? with
  | none =>
      rw [submit, content, opened]
      rfl
  | some records =>
      cases ran : request.run records with
      | error other => rw [submit_error opened ran]
      | ok accepted =>
          have answered := (submit_ok opened request).2
          rw [failed, ran] at answered
          cases answered

/-- A request that writes nothing leaves the store itself alone. -/
theorem submit_of_no_writes {request : Request} {reply : Reply}
    (opened : store.content? = some records) (ran : request.run records = .ok ⟨reply, []⟩) :
    store.submit request = (store, .ok reply) := by
  have content : store.content = .ok records := by
    rw [Store.content, opened]
  have committed : store.commitFor request.client [] = (store, .ok ()) := by
    cases store with
    | memory memory => rfl
    | table kind table => rfl
    | closed kind table => cases opened
  rw [submit, content]
  simp only [bind, Except.bind, ran, committed]
  rfl

/-- The store after requests, made one after the other. -/
def after (store : Store) (requests : List Request) : Store :=
  requests.foldl (fun store request => (store.submit request).1) store

end Store

variable [Signing]

/-- The content of a store after requests, made one after the other. -/
def Records.after (records : Records) (requests : List Request) : Records :=
  requests.foldl (fun records request => request.effect records) records

/-- What one request keeps, any number of requests keep. -/
theorem Records.after_keeps (property : Records → Prop)
    (step : ∀ records request, property records → property (Request.effect request records))
    {records : Records} (holds : property records) (requests : List Request) :
    property (records.after requests) := by
  induction requests generalizing records with
  | nil => exact holds
  | cons request requests ih => exact ih (step records request holds)

theorem Store.content?_after {store : Store} {records : Records}
    (opened : store.content? = some records) (requests : List Request) :
    (store.after requests).content? = some (records.after requests) := by
  induction requests generalizing store records with
  | nil => exact opened
  | cons request requests ih => exact ih (submit_ok opened request).1

end Finality
