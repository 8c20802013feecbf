import Finality.Chain.Invalid
import Finality.Report

/-!
# Why bytes are refused

The faults of both wire forms. A form can also spell out parts that make no value; such a
fault keeps the reason that the value gave.
-/

namespace Finality

/-- Why an encoding is refused. -/
inductive DecodeFault where
  /-- The input is no byte string, but a value of another type. -/
  | notBytes (type : String)
  /-- The input ends before the item at an offset. -/
  | truncated (offset wanted : Nat)
  /-- The mark of an optional item is neither zero nor one. -/
  | optionTag (tag offset : Nat)
  /-- A sequence has more items than the input has bytes. -/
  | sequenceLength (count : Nat)
  /-- Bytes are left over. -/
  | trailing (offset extra : Nat)
  /-- A text is not UTF-8. -/
  | utf8
  /-- There is no scheme with the tag. -/
  | scheme (tag : Nat)
  /-- There is no side with the tag. -/
  | side (tag : Nat)
  /-- A validator is written in an unknown version. -/
  | validatorVersion (version : Nat)
  /-- The input is no item of the tagged form. -/
  | malformed
  /-- Fields were expected, and a value of another type found. -/
  | notMap (place type : String)
  /-- Fields are missing or unknown. -/
  | wrongFields (place : String) (missing extra : List String)
  /-- A field is no unsigned integer. -/
  | notUnsigned (field : String)
  /-- A field is no byte string. -/
  | notByteString (field : String)
  /-- A byte string has the wrong size. -/
  | byteStringSize (field : String) (size got : Nat)
  /-- A field is no text. -/
  | notText (field : String)
  /-- A field is no array. -/
  | notArray (field : String)
  /-- A type URL is no text. -/
  | urlNotText
  /-- No kind of message has the type URL. -/
  | unknownUrl (url : String)
  /-- A message is of another kind than expected. -/
  | unexpectedKind (expected : Kind) (got : String)
  /-- A message is not written in its one canonical way. -/
  | nonCanonical (url : String)
  /-- The parts of a value in compact form make no value. -/
  | invalidCompact (kind : Kind) (reason : Invalid)
  /-- The parts of a value in tagged form make no value. -/
  | invalidTagged (url : String) (reason : Invalid)
deriving Inhabited

/-- A list of texts as data. -/
def Datum.texts (items : List String) : Datum := .list (items.map .text)

namespace DecodeFault

/-- The name of a kind where a type URL is expected. -/
def kindLabel (kind : Kind) : String := kind.url?.getD kind.name

/-- The message of a fault. -/
def message : DecodeFault → String
  | notBytes _ => "expected bytes"
  | truncated _ _ => "truncated"
  | optionTag _ _ => "invalid option tag"
  | sequenceLength _ => "sequence length exceeds input"
  | trailing _ _ => "trailing bytes"
  | utf8 => "invalid UTF-8"
  | scheme _ => "unsupported key type"
  | side _ => "invalid sibling position"
  | validatorVersion _ => "unsupported validator stake view"
  | malformed => "invalid CBOR"
  | notMap place _ => place ++ " must be a map"
  | wrongFields place _ _ => place ++ " has wrong fields"
  | notUnsigned field => field ++ " must be an unsigned integer"
  | notByteString field => field ++ " must be a byte string"
  | byteStringSize field size _ => field ++ " must be " ++ toString size ++ " bytes"
  | notText field => field ++ " must be text"
  | notArray field => field ++ " must be an array"
  | urlNotText => "type url must be text"
  | unknownUrl _ => "unknown type url"
  | unexpectedKind _ _ => "unexpected message type"
  | nonCanonical _ => "non-canonical encoding"
  | invalidCompact _ reason => reason.message
  | invalidTagged _ reason => reason.message

/-- The particulars of a fault. -/
def data : DecodeFault → Fields
  | notBytes type => [("got", .text type)]
  | truncated offset wanted => [("offset", .nat offset), ("wanted", .nat wanted)]
  | optionTag tag offset => [("tag", .nat tag), ("offset", .nat offset)]
  | sequenceLength count => [("count", .nat count)]
  | trailing offset extra => [("offset", .nat offset), ("extra", .nat extra)]
  | scheme tag => [("tag", .nat tag)]
  | side tag => [("position", .nat tag)]
  | validatorVersion version => [("version", .nat version)]
  | notMap _ type => [("got", .text type)]
  | wrongFields _ missing extra => [("missing", .texts missing), ("extra", .texts extra)]
  | byteStringSize _ _ got => [("got", .nat got)]
  | unknownUrl url => [("type_url", .text url)]
  | unexpectedKind expected got => [("expected", .text (kindLabel expected)), ("got", .text got)]
  | nonCanonical url => [("type_url", .text url)]
  | invalidCompact kind _ => [("type", .text kind.name)]
  | invalidTagged url _ => [("type_url", .text url)]
  | _ => []

/-- The report of a fault. -/
def report (fault : DecodeFault) : Report := .of .decode fault.message fault.data

end DecodeFault

/-- Why a wire form gives no value: its bytes or fields are wrong, or they spell out parts that
make no value. -/
inductive FormFault where
  | decode (fault : DecodeFault)
  | invalid (reason : Invalid)
deriving Inhabited

end Finality
