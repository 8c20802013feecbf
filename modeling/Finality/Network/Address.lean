import Finality.Bytes.Endian
import Finality.Bytes.Hex
import Finality.Time.Calendar

/-!
# Addresses on networks

Addresses of the two versions of the internet protocol, with the number of leading bits that
name a network. An address of version 4 is written as four decimal numbers with points, one
of version 6 as eight hexadecimal numbers with colons, of which the longest run of zeros is
left out.
-/

namespace Finality.Network

/-- The versions of the protocol. -/
inductive Version where
  | four
  | six
deriving DecidableEq

namespace Version

/-- The number of bytes in an address. -/
def size : Version → Nat
  | four => 4
  | six => 16

/-- The number of bits in an address. -/
def bits (version : Version) : Nat := 8 * version.size

/-- The number of a version as it stands in names. -/
def digit : Version → String
  | four => "4"
  | six => "6"

end Version

/-- An address. One of version 6 can name the zone that it is valid in. -/
structure Address where
  version : Version
  value : Nat
  zone : Option String
deriving DecidableEq

namespace Address

/-- The address of a version with the given bytes. -/
def ofBytes? (version : Version) (data : Bytes) : Option Address :=
  if data.length = version.size then some ⟨version, beValue data, none⟩ else none

/-- The address of a version with a number. -/
def ofInt? (version : Version) (value : Int) : Option Address :=
  if 0 ≤ value ∧ value < capacity version.size then some ⟨version, value.toNat, none⟩ else none

/-- The parts of a text between marks. -/
def parts (mark : Char) : List Char → List (List Char)
  | [] => [[]]
  | char :: rest =>
    match parts mark rest with
    | [] => [[char]]
    | part :: others => if char = mark then [] :: part :: others else (char :: part) :: others

/-- One number of an address of version 4, without leading zeros. -/
def readOctet? (text : List Char) : Option Nat :=
  if text.isEmpty ∨ 3 < text.length ∨ (text ≠ ['0'] ∧ text.head? = some '0') then none
  else (Date.number? text).bind fun value => if value < 256 then some value else none

/-- The number of an address of version 4. -/
def readFour? (text : List Char) : Option Nat :=
  match (parts '.' text).mapM readOctet? with
  | some [a, b, c, d] => some (((a * 256 + b) * 256 + c) * 256 + d)
  | _ => none

/-- One number of an address of version 6. -/
def readGroup? (text : List Char) : Option Nat :=
  if text.isEmpty ∨ 4 < text.length then none
  else text.foldlM (fun value char => (hexValue? char).map (16 * value + ·)) 0

/-- Texts of numbers, where the last may be an address of version 4. -/
def withoutFour? (groups : List (List Char)) : Option (List (List Char)) :=
  match groups.getLast? with
  | some last =>
    if last.contains '.' then
      (readFour? last).map fun value =>
        groups.dropLast ++ [Nat.toDigits 16 (value / 65536), Nat.toDigits 16 (value % 65536)]
    else some groups
  | none => none

/-- The number of eight groups. -/
def ofGroups (groups : List Nat) : Nat := groups.foldl (fun value group => 65536 * value + group) 0

/-- The places of empty groups between the first and the last one. -/
def gaps (groups : List (List Char)) : List Nat :=
  (List.range groups.length).filter fun place =>
    0 < place && place + 1 < groups.length && groups[place]? == some []

/-- The number of an address of version 6. One empty group stands for all that are missing; an
empty group at an end has to be part of it. -/
def readSix? (text : List Char) : Option Nat := do
  let written := parts ':' text
  if written.length < 3 then none
  let groups ← withoutFour? written
  if 9 < groups.length then none
  match gaps groups with
  | [] => if groups.length = 8 then return ofGroups (← groups.mapM readGroup?) else none
  | [gap] =>
    let before := groups.take gap
    let after := groups.drop (gap + 1)
    let before ← if before.head? = some [] then (if gap = 1 then some [] else none) else some before
    let after ← if after.getLast? = some [] then (if after.length = 1 then some [] else none)
      else some after
    let missing := 8 - (before.length + after.length)
    if missing = 0 then none
    let before ← before.mapM readGroup?
    let after ← after.mapM readGroup?
    return ofGroups (before ++ List.replicate missing 0 ++ after)
  | _ => none

/-- The address of a version that a text stands for. -/
def read? (version : Version) (text : List Char) : Option Address :=
  match version with
  | .four => (readFour? text).map fun value => ⟨.four, value, none⟩
  | .six =>
    let place := text.takeWhile (· ≠ '%')
    match text.dropWhile (· ≠ '%') with
    | [] => (readSix? place).map fun value => ⟨.six, value, none⟩
    | _ :: zone =>
      if zone.isEmpty ∨ zone.contains '%' ∨ zone.contains '/' then none
      else (readSix? place).map fun value => ⟨.six, value, some (String.ofList zone)⟩

/-- The eight groups of an address of version 6. -/
def groups (value : Nat) : List Nat :=
  (List.range 8).map fun place => value / Nat.pow 65536 (7 - place) % 65536

/-- The number of zeros that a list starts with. -/
def zeros (groups : List Nat) : Nat := (groups.takeWhile (· = 0)).length

/-- The place and the length of the first of the longest runs of at least two zeros. -/
def longestRun (groups : List Nat) : Nat × Nat :=
  (List.range groups.length).foldl (fun (place, length) start =>
    let found := zeros (groups.drop start)
    if 1 < found ∧ length < found then (start, found) else (place, length)) (0, 0)

/-- The text of an address without its zone. -/
def plainText (address : Address) : String :=
  match address.version with
  | .four =>
    ".".intercalate ((beBytes 4 address.value).map fun byte => toString byte.toNat)
  | .six =>
    let groups := groups address.value
    let (place, length) := longestRun groups
    let written (groups : List Nat) : String :=
      ":".intercalate (groups.map fun group => String.ofList (Nat.toDigits 16 group))
    if length = 0 then written groups
    else written (groups.take place) ++ "::" ++ written (groups.drop (place + length))

/-- The text of an address. -/
def text (address : Address) : String :=
  match address.zone with
  | none => address.plainText
  | some zone => address.plainText ++ "%" ++ zone

end Address

/-- The bits of an address behind its network. -/
def hostPart (version : Version) (size value : Nat) : Nat :=
  value % Nat.pow 2 (version.bits - size)

/-- The number of leading ones of a mask that has no others. -/
def maskSize? (version : Version) (mask : Nat) : Option Nat :=
  (List.range (version.bits + 1)).find? fun size =>
    mask = Nat.pow 2 version.bits - Nat.pow 2 (version.bits - size)

/-- The number of leading bits that a text gives: as a number, or for version 4 as a mask of
ones or the mask of the bits behind. -/
def readSize? (version : Version) (text : List Char) : Option Nat :=
  match if text.isEmpty then none else Date.number? text, version with
  | some size, _ => if size ≤ version.bits then some size else none
  | none, .six => none
  | none, .four =>
    match Address.readFour? text with
    | none => none
    | some mask => (maskSize? .four mask).or (maskSize? .four (Nat.pow 2 32 - 1 - mask))

end Finality.Network
