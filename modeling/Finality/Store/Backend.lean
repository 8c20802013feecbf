import Finality.Store.Records

/-!
# Storage backends

There are two backends. `Memory` keeps records in the order in which their keys came and
sorts what a scan finds; `Table` keeps rows in the order of their keys and scans a range
of them. `content` says which finite map a backend stands for.

A batch is a block of writes that takes effect as a whole. In memory the writes are
staged and applied at the end; in a table they are made at once, and the rows from before
come back if the block fails.
-/

namespace Finality

/-- Why a batch refuses an operation. -/
inductive BatchFault where
  | entered
  | notEntered
deriving DecidableEq

/-- The text of a fault. -/
def BatchFault.message : BatchFault → String
  | entered => "batch is already in progress"
  | notEntered => "batch used outside its with-block"

/-- Records kept in the order in which their keys came. -/
structure Memory where
  entries : Entries Bytes
  distinct : (entries.map (·.1)).Nodup

namespace Memory

/-- The memory without records. -/
def empty : Memory := ⟨[], List.nodup_nil⟩

/-- Set the value of a key among entries. A known key keeps its place. -/
def putEntry (key value : Bytes) : List (Bytes × Bytes) → List (Bytes × Bytes)
  | [] => [(key, value)]
  | (other, known) :: entries =>
    if key = other then (key, value) :: entries else (other, known) :: putEntry key value entries

theorem mem_putEntry {key value : Bytes} {entries : List (Bytes × Bytes)}
    {entry : Bytes × Bytes} (h : entry ∈ putEntry key value entries) :
    entry = (key, value) ∨ entry ∈ entries := by
  induction entries with
  | nil => exact Or.inl (by simpa [putEntry] using h)
  | cons head entries ih =>
    obtain ⟨other, known⟩ := head
    simp only [putEntry] at h
    split at h
    · exact (List.mem_cons.1 h).imp_right (List.mem_cons_of_mem _)
    · rcases List.mem_cons.1 h with h | h
      · exact Or.inr (h ▸ List.mem_cons_self)
      · exact (ih h).imp_right (List.mem_cons_of_mem _)

theorem nodup_putEntry {key value : Bytes} {entries : List (Bytes × Bytes)}
    (h : (entries.map (·.1)).Nodup) : ((putEntry key value entries).map (·.1)).Nodup := by
  induction entries with
  | nil => simp [putEntry]
  | cons head entries ih =>
    obtain ⟨other, known⟩ := head
    obtain ⟨hfresh, htail⟩ := List.nodup_cons.1 h
    simp only [putEntry]
    split
    · next heq => subst heq; exact List.nodup_cons.2 ⟨hfresh, htail⟩
    · next hne =>
      refine List.nodup_cons.2 ⟨fun hmem => ?_, ih htail⟩
      obtain ⟨entry, hentry, heq⟩ := List.mem_map.1 hmem
      rcases mem_putEntry hentry with hentry | hentry
      · subst hentry; exact hne heq
      · exact hfresh (List.mem_map.2 ⟨entry, hentry, heq⟩)

/-- The memory after a change. -/
def apply (memory : Memory) : Write → Memory
  | .put key value => ⟨putEntry key value memory.entries, nodup_putEntry memory.distinct⟩
  | .delete key =>
    ⟨memory.entries.filter fun entry => entry.1 ≠ key,
      List.Pairwise.sublist (List.filter_sublist.map _) memory.distinct⟩

/-- The value of a key. -/
def get? (memory : Memory) (key : Bytes) : Option Bytes := memory.entries.value? key

/-- The records whose key starts with a byte string, in the order of their keys. -/
def scan (memory : Memory) (stem : Bytes) : List (Bytes × Bytes) :=
  (Records.ofEntries (memory.entries.filter fun entry => stem.isPrefixOf entry.1)).entries

/-- The map that a memory stands for. -/
def content (memory : Memory) : Records := Records.ofEntries memory.entries

/-- A batch on a memory: the writes staged so far, once it is entered. -/
abbrev Batch := Option (List Write)

namespace Batch

/-- Enter the block. -/
def enter : Batch → Except BatchFault Batch
  | none => .ok (some [])
  | some _ => .error .entered

/-- Stage a write. -/
def stage (write : Write) : Batch → Except BatchFault Batch
  | none => .error .notEntered
  | some staged => .ok (some (staged ++ [write]))

end Batch

/-- Leave the block of a batch; the staged writes take effect if it ends cleanly. -/
def leave (memory : Memory) (batch : Batch) (clean : Bool) : Memory :=
  if clean then (batch.getD []).foldl apply memory else memory

end Memory

/-- Records kept as rows in the order of their keys. -/
structure Table where
  rows : Records

/-- The least byte string above all that start with `stem`, if there is one. -/
def rangeEnd? (stem : Bytes) : Option Bytes :=
  match stem.reverse.dropWhile (· == 255) with
  | [] => none
  | last :: rest => some ((last + 1) :: rest).reverse

namespace Table

/-- The table without rows. -/
def empty : Table := ⟨.empty⟩

/-- The table after a change. -/
def apply (table : Table) (write : Write) : Table := ⟨table.rows.apply write⟩

/-- The value of a key. -/
def get? (table : Table) (key : Bytes) : Option Bytes := table.rows.get? key

/-- Whether a key lies in a range whose end may be open. -/
def inRange (low : Bytes) (high : Option Bytes) (key : Bytes) : Bool :=
  low ≤ key && match high with
    | some high => key < high
    | none => true

/-- The rows whose key starts with a byte string, in the order of their keys. -/
def scan (table : Table) (stem : Bytes) : List (Bytes × Bytes) :=
  table.rows.entries.filter fun entry => inRange stem (rangeEnd? stem) entry.1

/-- The map that a table stands for. -/
def content (table : Table) : Records := table.rows

/-- A batch on a table: the rows from before, once it is entered. -/
abbrev Batch := Option Records

namespace Batch

/-- Enter the block. -/
def enter (table : Table) : Batch → Except BatchFault Batch
  | none => .ok (some table.rows)
  | some _ => .error .entered

/-- Make a write within the block. -/
def write (table : Table) (change : Write) : Batch → Except BatchFault Table
  | none => .error .notEntered
  | some _ => .ok (table.apply change)

end Batch

/-- Leave the block of a batch; the rows from before come back if it fails. -/
def leave (table : Table) (batch : Batch) (clean : Bool) : Table :=
  if clean then table else ⟨batch.getD table.rows⟩

end Table

end Finality
