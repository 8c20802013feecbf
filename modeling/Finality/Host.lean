import Finality.Datum

/-!
# The host

Four things are up to the host that the library runs on: how deep its readers of JSON and of
CBOR go, how it writes a mail message, which an item of CBOR can be, and in which order it goes
through the items of a set. `Host` has what the library relies on: both readers go as deep as the
library's own data nest, every item of a set is gone through once, and nothing is known of mail.
What is stated for a host is true of every host.
-/

namespace Finality

/-- What a host brings. -/
class Host where
  /-- The most lists and objects that its reader of JSON takes inside one another. -/
  jsonDepth : Nat
  /-- The most containers and tags that its reader of CBOR takes inside one another. -/
  cborDepth : Nat
  /-- The text of the mail message that a text is read as, or why the message has none. -/
  writeMail : String → Except HostError String
  /-- The items of a set in the order in which it goes through them. -/
  visited : List Datum → List Datum
  /-- A list of objects is read. -/
  two_le_jsonDepth : 2 ≤ jsonDepth
  /-- A message is read: an envelope around fields, of which the deepest nest six levels deep. -/
  seven_le_cborDepth : 7 ≤ cborDepth
  /-- Nothing is left out of a set, and nothing is added. -/
  visited_perm : ∀ items, (visited items).Perm items

end Finality
