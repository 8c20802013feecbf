import Finality.Entries

/-!
# Records

The content of a store is a finite map from byte strings to byte strings. A scan of it
meets the keys in order.
-/

namespace Finality

/-- A finite map from byte strings to byte strings. -/
structure Records where
  entries : Entries Bytes
  ascending : Ascending entries

/-- A change of one record. -/
inductive Write where
  | put (key value : Bytes)
  | delete (key : Bytes)
deriving DecidableEq

/-- The key that a change is about. -/
def Write.key : Write → Bytes
  | put key _ => key
  | delete key => key

namespace Records

/-- The map without records. -/
def empty : Records := ⟨[], List.Pairwise.nil⟩

instance : Inhabited Records := ⟨empty⟩

/-- Set the value of a key. -/
def insert (key value : Bytes) (records : Records) : Records :=
  ⟨records.entries.insert key value, Entries.ascending_insert records.ascending⟩

/-- The records that pass a test. -/
def filter (keep : Bytes × Bytes → Bool) (records : Records) : Records :=
  ⟨records.entries.filter keep, List.Pairwise.filter keep records.ascending⟩

/-- Remove a key. -/
def erase (key : Bytes) (records : Records) : Records :=
  records.filter fun entry => entry.1 ≠ key

/-- The value of a key. -/
def get? (records : Records) (key : Bytes) : Option Bytes := records.entries.value? key

/-- The records whose key starts with a byte string, in the order of their keys. -/
def scan (records : Records) (stem : Bytes) : List (Bytes × Bytes) :=
  records.entries.filter fun entry => stem.isPrefixOf entry.1

/-- The map after a change. -/
def apply (records : Records) : Write → Records
  | .put key value => records.insert key value
  | .delete key => records.erase key

/-- The map after changes, one after the other. -/
def applyAll (records : Records) (writes : List Write) : Records := writes.foldl apply records

/-- The map with the given entries, where later entries win. -/
def ofEntries (entries : List (Bytes × Bytes)) : Records :=
  entries.foldl (fun records entry => records.insert entry.1 entry.2) empty

end Records

end Finality
