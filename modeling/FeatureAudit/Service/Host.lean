import FeatureAudit.Service.Label
import FeatureAudit.Text.Hex
import FeatureAudit.Text.Integer
import FeatureAudit.Text.Utf8

/-!
Hosts: addresses of four numbers, addresses of groups in square brackets, and names.

* `isDottedAddress` and `isColonAddress` are the two kinds of addresses.
* `sentHost?` is a host as it is sent, if it can be one.
-/
namespace FeatureAudit.Service

open FeatureAudit.Text

/-! ### Escapes -/

/-- The escape of a byte. -/
def byteEscape (b : UInt8) : List Char := '%' :: hexPadded 2 b.toNat

/-- A text where what does not stand for itself is escaped byte by byte. -/
def escapedUnless (isPlain : Char → Bool) (cs : List Char) : List Char :=
  cs.flatMap fun c => if isPlain c then [c] else (String.utf8EncodeChar c).flatMap byteEscape

/-! ### Addresses -/

/-- Whether a host is written as four runs of digits with points between them, and so has to be an
address. -/
def isFourRuns (host : List Char) : Bool :=
  let runs := host.splitOn '.'
  runs.length == 4 && runs.all fun run => !run.isEmpty && run.all Char.isDigit

/-- A number of an address: up to 255, without zeros in front. -/
def isOctet (cs : List Char) : Bool :=
  cs.all Char.isDigit && decide (1 ≤ cs.length) && decide (cs.length ≤ 3) &&
    (cs.length == 1 || cs.head? != some '0') && decide (ofDigits (cs.filterMap digitValue?) ≤ 255)

/-- An address of four numbers with points between them. -/
def isDottedAddress (cs : List Char) : Bool :=
  let parts := cs.splitOn '.'
  parts.length == 4 && parts.all isOctet

/-- A group of an address: up to four hexadecimal digits. -/
def isAddressGroup (cs : List Char) : Bool :=
  !cs.isEmpty && decide (cs.length ≤ 4) && cs.all isHexDigit

/-- The groups of an address, where four numbers at the end are two groups. -/
def addressGroups? (cs : List Char) : Option (List (List Char)) :=
  let parts := cs.splitOn ':'
  let last := parts.getLast?.getD []
  if parts.length < 3 then none
  else if !last.contains '.' then some parts
  else if isDottedAddress last then some (parts.dropLast ++ [['0'], ['0']])
  else none

/-- The number of groups on one side of a gap; a side may be empty. -/
def sideLength? (side : List (List Char)) : Option Nat :=
  if side == [[]] then some 0 else if side.all isAddressGroup then some side.length else none

/-- Whether groups make an address: there are eight of them, or fewer around one gap. -/
def areGroups (groups : List (List Char)) : Bool :=
  match (groups.drop 1).dropLast.findIdx? List.isEmpty with
  | none => groups.length == 8 && groups.all isAddressGroup
  | some i =>
    match sideLength? (groups.take (i + 1)), sideLength? (groups.drop (i + 2)) with
    | some front, some back => decide (front + back < 8)
    | _, _ => false

/-- An address of groups with colons between them, with a zone after a percent sign or without. -/
def isColonAddress (cs : List Char) : Bool :=
  let address := cs.takeWhile (· != '%')
  let zone := cs.drop address.length
  (zone.isEmpty || (decide (1 < zone.length) && !(zone.drop 1).contains '%')) &&
    (addressGroups? address).any areGroups

/-! ### Hosts -/

/-- Whether a host stands in square brackets. -/
def isBracketed (host : List Char) : Bool := host.head? == some '[' && host.getLast? == some ']'

/-- The marks that stand for themselves in a name of ASCII. -/
def plainInName : List Char := "-._~!$&'()*+,;=\"\x60\x7b\x7d%|\\".toList

/-- A host as it is sent, if it can be one. One that looks like an address has to be an address; other
names of ASCII always can be. -/
def sentHost? (host : List Char) : Option (List Char) :=
  if isFourRuns host then if isDottedAddress host then some host else none
  else if isBracketed host then
    if isColonAddress (host.drop 1).dropLast then some host else none
  else if host.all fun c => c.toNat < 128 then
    some (escapedUnless (fun c => c.isAlphanum || plainInName.contains c) (host.map Char.toLower))
  else sentName? (lowerChars host)

end FeatureAudit.Service
