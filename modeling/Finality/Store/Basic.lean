import Finality.Rejection
import Finality.Store.Backend
import Finality.Text.Quoted

/-!
# Stores

A store is a memory or a table that may be closed. Closing a memory empties it and
leaves it usable; a closed table refuses reads and writes. A table in a file keeps its
rows when it is opened again, the others come back empty.

The storage below an open table is relied on: it reads and writes what it is told, and the end of
a batch takes effect as a whole. A storage that fails in one of these is not described here.
-/

namespace Finality

/-- The kinds of store. -/
inductive StoreKind where
  /-- A memory. -/
  | memory
  /-- A table that lives as long as it is open. -/
  | table
  /-- A table in a file. -/
  | file
deriving DecidableEq

/-- The published name of a kind of store. -/
def StoreKind.name : StoreKind → String
  | memory => "MemoryKV"
  | table | file => "SQLiteKV"

/-- The kind of store that a URI names: a memory, or a table at a path after the scheme or at
a bare path. -/
def StoreKind.ofUri? (uri : String) : Option StoreKind :=
  let tableAt (path : String) := if path = "" || path = ":memory:" then StoreKind.table else file
  let scheme := "sqlite://"
  if ["memory://", "mem://", ""].contains uri then some memory
  else if uri.startsWith scheme then some (tableAt (uri.drop scheme.length).toString)
  else if (uri.splitOn "://").length > 1 then none
  else some (tableAt uri)

/-- The text of the fault that a URI names no store. -/
def StoreKind.unsupportedMessage (uri : String) : String :=
  "unsupported storage uri " ++ Text.quoted uri

/-- A store. -/
inductive Store where
  /-- A memory. -/
  | memory (memory : Memory)
  /-- An open table. -/
  | table (kind : StoreKind) (table : Table)
  /-- A closed table, with the rows that a file keeps. -/
  | closed (kind : StoreKind) (table : Table)

namespace Store

/-- A new store. -/
def create : StoreKind → Store
  | .memory => memory .empty
  | kind => table kind .empty

/-- The content of a store that is not closed. -/
def content? : Store → Option Records
  | memory store => some store.content
  | table _ store => some store.content
  | closed _ _ => none

/-- The content of a store, for reading. -/
def content (store : Store) : Outcome Records :=
  match store.content? with
  | some records => .ok records
  | none => .error .storeClosed

/-- The value of a key. -/
def get? (store : Store) (key : Bytes) : Outcome (Option Bytes) :=
  match store with
  | memory store => .ok (store.get? key)
  | table _ store => .ok (store.get? key)
  | closed _ _ => .error .storeClosed

/-- The records whose key starts with a byte string, in the order of their keys. -/
def scan (store : Store) (stem : Bytes) : Outcome (List (Bytes × Bytes)) :=
  match store with
  | memory store => .ok (store.scan stem)
  | table _ store => .ok (store.scan stem)
  | closed _ _ => .error .storeClosed

/-- The store after a change. -/
def apply (store : Store) (write : Write) : Outcome Store :=
  match store with
  | memory store => .ok (memory (store.apply write))
  | table kind store => .ok (table kind (store.apply write))
  | closed _ _ => .error .storeClosed

/-- Close a store. -/
def close : Store → Store
  | memory _ => memory .empty
  | table kind store => closed kind store
  | store => store

/-- Open a store again. -/
def reopen : Store → Store
  | memory _ => memory .empty
  | table kind store | closed kind store =>
    table kind (if kind = .file then store else .empty)

/-- A batch on a store. -/
inductive Batch where
  | memory (batch : Memory.Batch)
  | table (batch : Table.Batch)

/-- Why an operation on a batch fails. -/
inductive BatchFailure where
  | fault (fault : BatchFault)
  | storeClosed

/-- A new batch on a store. -/
def batch : Store → Batch
  | memory _ => .memory none
  | _ => .table none

/-- Enter the block of a batch. -/
def enter (store : Store) (batch : Batch) : Except BatchFailure Batch :=
  match batch, store with
  | .memory batch, _ => (batch.enter.mapError .fault).map .memory
  | .table batch, table _ store => ((batch.enter store).mapError .fault).map .table
  | .table (some _), _ => .error (.fault .entered)
  | .table none, _ => .error .storeClosed

/-- Make a write in the block of a batch. -/
def write (store : Store) (batch : Batch) (change : Write) :
    Except BatchFailure (Store × Batch) :=
  match batch, store with
  | .memory batch, store =>
    ((batch.stage change).mapError .fault).map fun batch => (store, .memory batch)
  | .table batch, table kind rows =>
    ((batch.write rows change).mapError .fault).map fun rows => (table kind rows, .table batch)
  | .table none, _ => .error (.fault .notEntered)
  | .table (some _), _ => .error .storeClosed

/-- Leave the block of a batch. -/
def leave (store : Store) (batch : Batch) (clean : Bool) : Store × Batch :=
  match batch, store with
  | .memory batch, memory store => (memory (store.leave batch clean), .memory none)
  | .table batch, table kind store => (table kind (store.leave batch clean), .table none)
  | .memory _, store => (store, .memory none)
  | .table _, store => (store, .table none)

/-- Make writes in the block of a batch, up to one that fails. -/
def writeAll (store : Store) (batch : Batch) :
    List Write → (Store × Batch) × Except BatchFailure Unit
  | [] => ((store, batch), .ok ())
  | change :: rest =>
    match store.write batch change with
    | .ok (store, batch) => store.writeAll batch rest
    | .error failure => ((store, batch), .error failure)

/-- Make writes in the block of a new batch. A write that fails leaves the block by an error. -/
def commit (store : Store) (writes : List Write) : Store × Except BatchFailure Unit :=
  match store.enter store.batch with
  | .error failure => (store, .error failure)
  | .ok batch =>
    let ((store, batch), outcome) := store.writeAll batch writes
    ((store.leave batch outcome.isOk).1, outcome)

end Store

end Finality
