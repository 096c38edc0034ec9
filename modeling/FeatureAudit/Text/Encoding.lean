import FeatureAudit.Text.CodeUnit

/-!
Encodings of text: UTF-8, and units of two or four bytes.

* `Encoding.split` tells the encoding of a text from its first bytes.
* `Encoding.read?` reads a text in an encoding.
-/
namespace FeatureAudit.Text

/-- How bytes write a text. Units of several bytes have the most significant byte first or last. -/
inductive Encoding where
  | utf8
  | utf16 (bigEndian : Bool)
  | utf32 (bigEndian : Bool)
  deriving DecidableEq, Repr

/-- The number that the bytes of a unit write. -/
def unitOf (bigEndian : Bool) (bytes : List UInt8) : Nat :=
  (if bigEndian then bytes else bytes.reverse).foldl (fun n b => 256 * n + b.toNat) 0

/-- Bytes as units of two bytes, if none is left over. -/
def units16? (bigEndian : Bool) : List UInt8 → Option (List Nat)
  | [] => some []
  | a :: b :: rest => (units16? bigEndian rest).map (unitOf bigEndian [a, b] :: ·)
  | _ => none

/-- Bytes as units of four bytes, if none is left over. -/
def units32? (bigEndian : Bool) : List UInt8 → Option (List Nat)
  | [] => some []
  | a :: b :: c :: d :: rest => (units32? bigEndian rest).map (unitOf bigEndian [a, b, c, d] :: ·)
  | _ => none

/-- The character of a unit of four bytes, if there is one. -/
def wideChar? (n : Nat) : Option Char := if n < 0x110000 then some (unitChar n) else none

namespace Encoding

/-- The text that bytes write in an encoding. -/
def read? : Encoding → List UInt8 → Option (List Char)
  | .utf8, bytes => decode? bytes
  | .utf16 bigEndian, bytes => (units16? bigEndian bytes).map ofUnits
  | .utf32 bigEndian, bytes => (units32? bigEndian bytes).bind fun units => units.mapM wideChar?

/-- The byte order marks. A mark that starts with another stands before it. -/
def marks : List (List UInt8 × Encoding) :=
  [([0, 0, 0xFE, 0xFF], .utf32 true), ([0xFF, 0xFE, 0, 0], .utf32 false),
   ([0xFE, 0xFF], .utf16 true), ([0xFF, 0xFE], .utf16 false), ([0xEF, 0xBB, 0xBF], .utf8)]

/-- The encoding of a text without a mark that starts with two ASCII characters, or is only one: all
their bytes but one are zero. -/
def ofZeros : List UInt8 → Encoding
  | [a, b] => if a = 0 then .utf16 true else if b = 0 then .utf16 false else .utf8
  | a :: b :: c :: d :: _ =>
    if a = 0 then (if b = 0 then .utf32 true else .utf16 true)
    else if b = 0 then (if c = 0 ∧ d = 0 then .utf32 false else .utf16 false)
    else .utf8
  | _ => .utf8

/-- The encoding of a text, and its bytes without the mark. -/
def split (bytes : List UInt8) : Encoding × List UInt8 :=
  match marks.find? fun m => m.1.isPrefixOf bytes with
  | some (mark, encoding) => (encoding, bytes.drop mark.length)
  | none => (ofZeros bytes, bytes)

end Encoding

end FeatureAudit.Text
