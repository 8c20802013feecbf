import Finality.Host
import Finality.Mail

/-!
# A host

One host, which the program is run on. Its reader of JSON stops where a thousand calls are open,
some of them the program's own, and its reader of CBOR at the depth that it has unless it is
told another. The items of a set are gone through as they came.
-/

namespace Finality

/-- The error that a mail message ends in. Neither is about a value. -/
def Mail.Fault.error : Mail.Fault → HostError
  | embeddedField =>
    ⟨"HeaderParseError", "header value appears to contain an embedded header", false⟩
  | brokenValue => ⟨"HeaderWriteError", "folded header contains newline", false⟩

/-- A host as the program finds it. -/
@[reducible] def Host.standard : Host where
  jsonDepth := 970
  cborDepth := 400
  writeMail text := (Mail.rewrite text).mapError Mail.Fault.error
  visited items := items
  two_le_jsonDepth := by decide
  seven_le_cborDepth := by decide
  visited_perm := List.Perm.refl

end Finality
