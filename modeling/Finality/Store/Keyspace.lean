import Finality.Bytes.Endian
import Finality.Chain.Height
import Finality.Rejection
import Finality.Text.Utf8

/-!
# Keys of records

Every record of a client lives under a tag for its family, a slash, the length of the
client's id in one byte, the id and a suffix. Suffixes of a family have one width, and a
height is written with its most significant byte first, so the order of keys is the order
of heights.
-/

namespace Finality

/-- The id of a client: a text of 1 to 255 bytes. -/
structure ClientId where
  text : String
  size_pos : 0 < (utf8 text).length
  size_lt : (utf8 text).length < 256

namespace ClientId

/-- A text as an id. -/
def ofText? (text : String) : Option ClientId :=
  if h : 0 < (utf8 text).length ∧ (utf8 text).length < 256 then some ⟨text, h.1, h.2⟩
  else none

/-- A text as the id of a client. -/
def ofText (text : String) : Outcome ClientId :=
  if text = "" then .error .clientIdEmpty
  else
    match ofText? text with
    | some id => .ok id
    | none => .error .clientIdSize

end ClientId

/-- The separator between a tag and an id. -/
def slash : UInt8 := 47

/-- A family of records. Its tag is not empty and has no slash. -/
structure Keyspace where
  tag : Bytes
  tag_ok : tag ≠ [] ∧ slash ∉ tag

namespace Keyspace

/-- The family with a tag. -/
def ofTag? (tag : Bytes) : Option Keyspace :=
  if h : tag ≠ [] ∧ slash ∉ tag then some ⟨tag, h⟩ else none

/-- The text of the fault that a byte string is no tag. -/
def badTagMessage (tag : Bytes) : String := "bad keyspace tag " ++ Text.quotedBytes tag

/-- What the keys of all records of a client start with. -/
def stem (space : Keyspace) (client : ClientId) : Bytes :=
  let id := utf8 client.text
  space.tag ++ slash :: UInt8.ofNat id.length :: id

/-- The key of a record. -/
def key (space : Keyspace) (client : ClientId) (suffix : Bytes) : Bytes :=
  space.stem client ++ suffix

/-- Client states. -/
def clients : Keyspace := ⟨[99], by decide⟩

/-- Consensus states. -/
def states : Keyspace := ⟨[115], by decide⟩

/-- Rosters of epochs. -/
def epochs : Keyspace := ⟨[101], by decide⟩

end Keyspace

namespace Height

/-- A height as the suffix of a key. -/
def suffix (height : Height) : Bytes :=
  beBytes 8 height.revision.toNat ++ beBytes 8 height.block.toNat

/-- The height that a suffix stands for. -/
def ofSuffix? (suffix : Bytes) : Option Height :=
  if suffix.length = 16 then
    some ⟨UInt64.ofNat (beValue (suffix.take 8)), UInt64.ofNat (beValue (suffix.drop 8))⟩
  else none

end Height

end Finality
