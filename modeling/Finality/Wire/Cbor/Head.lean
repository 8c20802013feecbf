import Finality.Bytes.Endian

/-!
# Heads of CBOR items

An item of CBOR (RFC 8949) starts with a head: three bits of major type and five of
additional information. The information is the argument of the item itself, or says in
how many bytes the argument follows, or that the length of the item is left open. The
shortest head for an argument is the canonical one.
-/

namespace Finality.Cbor

/-- The major types of items. -/
inductive Major where
  | unsigned
  | negative
  | bytes
  | text
  | array
  | map
  | tag
  | simple
deriving DecidableEq, Inhabited

namespace Major

/-- The major types in the order of their numbers. -/
def all : List Major := [unsigned, negative, bytes, text, array, map, tag, simple]

/-- The number of a major type. -/
def number : Major → Nat
  | unsigned => 0
  | negative => 1
  | bytes => 2
  | text => 3
  | array => 4
  | map => 5
  | tag => 6
  | simple => 7

/-- The major type with a number below eight. -/
def ofNumber (number : Nat) : Major := all.getD number unsigned

end Major

/-- What follows the major type in a head. -/
inductive Argument where
  /-- A number, written in the head itself or in `width` bytes after it. -/
  | number (width value : Nat)
  /-- The length of the item is left open. -/
  | indefinite
deriving DecidableEq

/-- The argument with one item less to come. -/
def Argument.fewer : Argument → Argument
  | number width value => number width (value - 1)
  | .indefinite => .indefinite

/-- The width of the argument that additional information from 24 to 27 announces. -/
def argumentWidth (info : Nat) : Nat := Nat.pow 2 (info - 24)

/-- A head at the start of a byte string, and the bytes after it. -/
def readHead : Bytes → Option (Major × Argument × Bytes)
  | [] => none
  | byte :: rest =>
    let major := Major.ofNumber (byte.toNat / 32)
    let info := byte.toNat % 32
    if info < 24 then some (major, .number 0 info, rest)
    else if info < 28 then
      let width := argumentWidth info
      if rest.length < width then none
      else some (major, .number width (beValue (rest.take width)), rest.drop width)
    else if info = 31 then some (major, .indefinite, rest)
    else none

/-- The shortest head for a major type and an argument below `2 ^ 64`. -/
def writeHead (major : Major) (argument : Nat) : Bytes :=
  let first (info : Nat) : UInt8 := UInt8.ofNat (32 * major.number + info)
  if argument < 24 then [first argument]
  else if argument < capacity 1 then first 24 :: beBytes 1 argument
  else if argument < capacity 2 then first 25 :: beBytes 2 argument
  else if argument < capacity 4 then first 26 :: beBytes 4 argument
  else first 27 :: beBytes 8 argument

end Finality.Cbor
