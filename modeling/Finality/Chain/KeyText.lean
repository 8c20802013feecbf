import Finality.Chain.Invalid
import Finality.Text.Case

/-!
# Public keys in text

The text form of a key is the name of its scheme, a colon and its bytes in hexadecimal.
Reading is more lenient than writing: the name and the digits may be of either case, the
digits may be marked with `0x`, and blanks may stand between bytes.
-/

namespace Finality

/-- Why a text is no public key. -/
inductive KeyTextFault where
  | noColon (text : String)
  | unknownScheme (name : String)
  | notHex
  | invalid (reason : Invalid)

/-- The text of the fault that a text is not hexadecimal. -/
def notHexMessage : String := "non-hexadecimal number"

namespace KeyTextFault

/-- The fault of a text without a colon, given by its codes. -/
def noColonMessage (codes : List Nat) : String :=
  "public key must look like scheme:hex, got " ++ Text.quotedCodes codes

/-- The fault of an unknown scheme, whose name is given by its codes. -/
def unknownSchemeMessage (codes : List Nat) : String :=
  "unknown key scheme " ++ Text.quotedCodes codes

/-- The text of a fault. -/
def message : KeyTextFault → String
  | noColon text => noColonMessage (text.toList.map Char.toNat)
  | unknownScheme name => unknownSchemeMessage (name.toList.map Char.toNat)
  | notHex => notHexMessage
  | invalid reason => reason.message

end KeyTextFault

namespace PublicKey

/-- The text without the mark `0x` at its front. -/
def dropHexMark : List Char → List Char
  | '0' :: 'x' :: rest => rest
  | text => text

/-- The scheme with a name of either case. -/
def schemeOf? (name : String) : Option Scheme :=
  Scheme.all.find? fun scheme => scheme.name == Text.fold name

/-- The key that a text stands for. -/
def parse (text : String) : Except KeyTextFault PublicKey :=
  let chars := text.toList
  let name := String.ofList (chars.takeWhile (· != ':'))
  match chars.dropWhile (· != ':') with
  | [] => .error (.noColon text)
  | _ :: digits =>
    match schemeOf? name with
    | none => .error (.unknownScheme name)
    | some scheme =>
      match ofHexChars? (dropHexMark digits) with
      | none => .error .notHex
      | some data => (ofBytes scheme data).mapError .invalid

end PublicKey

end Finality
