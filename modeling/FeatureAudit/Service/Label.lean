import FeatureAudit.Path
import FeatureAudit.Text.Canonical
import FeatureAudit.Text.Direction
import FeatureAudit.Text.Joining
import FeatureAudit.Text.LowerCase
import FeatureAudit.Text.Punycode
import FeatureAudit.Text.Run
import FeatureAudit.Text.Word

/-!
Labels: the parts of the name of a server.

* `labelFault?` tells what is wrong with a label of any script.
* `sentLabel?` is a label as it is sent, with ASCII alone, and `receivedFault?` what is wrong with one
  that is read back.
* `sentName?` and `nameFault?` do this for whole names.
-/
namespace FeatureAudit.Service

open FeatureAudit.Text

/-- What is wrong with a label: its form, a character that no label holds, a joiner where nothing is
to be joined, another character that does not fit its neighbours, or letters of several
directions. -/
inductive LabelFault where
  | form
  | character
  | joiner
  | context
  | direction
  deriving DecidableEq, Repr

/-! ### Characters -/

/-- Ranges in which no letter, digit or mark is allowed (Unicode 14). -/
def refusedRanges : List (Nat × Nat) := [
  (0x00AA, 0x00BE), (0x0133, 0x0133), (0x0140, 0x0140), (0x0149, 0x0149), (0x017F, 0x017F),
  (0x01C6, 0x01CC), (0x01F3, 0x01F3), (0x02B0, 0x02B8), (0x02E0, 0x02E4), (0x0340, 0x0341),
  (0x0343, 0x0345), (0x034F, 0x034F), (0x0374, 0x0374), (0x037A, 0x037A), (0x03D0, 0x03D6),
  (0x03F0, 0x03F2), (0x03F5, 0x03F5), (0x0488, 0x0489), (0x0587, 0x0587), (0x0640, 0x0640),
  (0x0660, 0x0669), (0x0675, 0x0678), (0x06F0, 0x06F9), (0x07FA, 0x07FA), (0x0958, 0x095F),
  (0x09DC, 0x09DF), (0x09F4, 0x09F9), (0x0A33, 0x0A33), (0x0A36, 0x0A36), (0x0A59, 0x0A5B),
  (0x0A5E, 0x0A5E), (0x0B5C, 0x0B5D), (0x0B72, 0x0B77), (0x0BF0, 0x0BF2), (0x0C78, 0x0C7E),
  (0x0D58, 0x0D5E), (0x0D70, 0x0D78), (0x0E33, 0x0E33), (0x0EB3, 0x0EB3), (0x0EDC, 0x0EDD),
  (0x0F2A, 0x0F33), (0x0F43, 0x0F43), (0x0F4D, 0x0F4D), (0x0F52, 0x0F52), (0x0F57, 0x0F57),
  (0x0F5C, 0x0F5C), (0x0F69, 0x0F69), (0x0F73, 0x0F73), (0x0F75, 0x0F79), (0x0F81, 0x0F81),
  (0x0F93, 0x0F93), (0x0F9D, 0x0F9D), (0x0FA2, 0x0FA2), (0x0FA7, 0x0FA7), (0x0FAC, 0x0FAC),
  (0x0FB9, 0x0FB9), (0x10FC, 0x10FC), (0x1100, 0x11FF), (0x1369, 0x137C), (0x13F8, 0x13FD),
  (0x16EE, 0x16F0), (0x17B4, 0x17B5), (0x17F0, 0x180F), (0x19DA, 0x19DA), (0x1ABE, 0x1ABE),
  (0x1C80, 0x1C88), (0x1D2C, 0x1D2E), (0x1D30, 0x1D3A), (0x1D3C, 0x1D4D), (0x1D4F, 0x1D6A),
  (0x1D78, 0x1D78), (0x1D9B, 0x1DBF), (0x1E9A, 0x1E9B), (0x1F71, 0x1F71), (0x1F73, 0x1F73),
  (0x1F75, 0x1F75), (0x1F77, 0x1F77), (0x1F79, 0x1F79), (0x1F7B, 0x1F7B), (0x1F7D, 0x1FA7),
  (0x1FB2, 0x1FB4), (0x1FB7, 0x1FC4), (0x1FC7, 0x1FC7), (0x1FD3, 0x1FD3), (0x1FE3, 0x1FE3),
  (0x1FF2, 0x1FF4), (0x1FF7, 0x2149), (0x2150, 0x2182), (0x2185, 0x2793), (0x2C7C, 0x2C7D),
  (0x2CFD, 0x2CFD), (0x2D6F, 0x2D6F), (0x3021, 0x3029), (0x302E, 0x303B), (0x309F, 0x309F),
  (0x30FF, 0x30FF), (0x3131, 0x3195), (0x3220, 0x32BF), (0xA670, 0xA672), (0xA69C, 0xA69D),
  (0xA6E6, 0xA6EF), (0xA770, 0xA770), (0xA7F2, 0xA7F4), (0xA7F8, 0xA7F9), (0xA830, 0xA835),
  (0xA960, 0xA97C), (0xAB5C, 0xAB5F), (0xAB69, 0xABBF), (0xD7B0, 0xFA0D), (0xFA10, 0xFA10),
  (0xFA12, 0xFA12), (0xFA15, 0xFA1E), (0xFA20, 0xFA20), (0xFA22, 0xFA22), (0xFA25, 0xFA26),
  (0xFA2A, 0xFB1D), (0xFB1F, 0xFE0F), (0xFE70, 0xFE72), (0xFE74, 0xFFDC), (0x10107, 0x1018B),
  (0x102E1, 0x102FB), (0x10320, 0x10323), (0x10341, 0x10341), (0x1034A, 0x1034A),
  (0x103D1, 0x103D5), (0x10781, 0x107BA), (0x10858, 0x1085F), (0x10879, 0x1087F),
  (0x108A7, 0x108AF), (0x108FB, 0x108FF), (0x10916, 0x1091B), (0x109BC, 0x109BD),
  (0x109C0, 0x109FF), (0x10A40, 0x10A48), (0x10A7D, 0x10A7E), (0x10A9D, 0x10A9F),
  (0x10AEB, 0x10AEF), (0x10B58, 0x10B5F), (0x10B78, 0x10B7F), (0x10BA9, 0x10BAF),
  (0x10CFA, 0x10CFF), (0x10E60, 0x10E7E), (0x10F1D, 0x10F26), (0x10F51, 0x10F54),
  (0x10FC5, 0x10FCB), (0x11052, 0x11065), (0x111E1, 0x111F4), (0x1173A, 0x1173B),
  (0x118EA, 0x118F2), (0x11C5A, 0x11C6C), (0x11FC0, 0x11FD4), (0x12400, 0x1246E),
  (0x16B5B, 0x16B61), (0x16E80, 0x16E96), (0x1D165, 0x1D7FF), (0x1E8C7, 0x1E8CF),
  (0x1EC71, 0x1FBF9), (0x2F800, 0x2FA1D), (0xE0100, 0xE01EF)]

/-- Letters and signs that are allowed although they are no lowercase letters. -/
def extraRanges : List (Nat × Nat) := [(0x06FD, 0x06FE), (0x0F0B, 0x0F0B), (0x13A0, 0x13F5)]

/-- A character that may stand anywhere in a label: a lowercase letter, a digit, a mark or a
hyphen. -/
def isLabelChar (c : Char) : Bool :=
  if c.toNat < 128 then c.isLower || c.isDigit || c == '-'
  else
    inRanges extraRanges c ||
      ((isWord c || isMark c) && lowerChars [c] == [c] && !inRanges refusedRanges c)

/-- Ranges that hold the lowercase letters of the Greek script. -/
def greekRanges : List (Nat × Nat) := [
  (0x0371, 0x03E1), (0x03F3, 0x03FC), (0x1D26, 0x1D2A), (0x1F00, 0x1FF6), (0xAB65, 0xAB65)]

/-- Ranges that hold the letters and marks of the Hebrew script. -/
def hebrewRanges : List (Nat × Nat) := [
  (0x0591, 0x05F4), (0xFB1E, 0xFB1E)]

/-- Ranges that hold the letters of the scripts of Japanese. -/
def japaneseRanges : List (Nat × Nat) := [
  (0x3041, 0x3096), (0x309D, 0x309E), (0x1B001, 0x1B11F), (0x1B150, 0x1B152),
  (0x30A1, 0x30FA), (0x30FD, 0x30FE), (0x31F0, 0x31FF), (0x1AFF0, 0x1B000), (0x1B120, 0x1B122),
  (0x1B164, 0x1B167),
  (0x3005, 0x3005), (0x3007, 0x3007), (0x3400, 0x9FFF), (0xFA0E, 0xFA29), (0x16FE3, 0x16FE3),
  (0x16FF0, 0x16FF1), (0x20000, 0x3134A)]

/-- Whether text ends with a sign that takes away a vowel; the last character stands first. -/
def endsWithVirama (before : List Char) : Bool :=
  before.head?.any fun c => combiningClass c == viramaClass

/-- The digits of the Arabic script. -/
def isArabicDigit (c : Char) : Bool := 0x0660 ≤ c.toNat && c.toNat ≤ 0x0669

/-- The digits that eastern languages use with the Arabic script. -/
def isEasternDigit (c : Char) : Bool := 0x06F0 ≤ c.toNat && c.toNat ≤ 0x06F9

/-- Whether a character that needs its neighbours has them: `before` holds what stands before it, the
nearest first, and `after` what stands after it. Joiners belong between joined letters, a middle dot
between two of the letter l, and signs of a script beside letters of it; digits of the Arabic script
are of one kind. -/
def fitsNeighbours? (label before : List Char) (c : Char) (after : List Char) : Option Bool :=
  match c with
  | '\u200c' => some (endsWithVirama before || areJoined before after)
  | '\u200d' => some (endsWithVirama before)
  | '\u00b7' => some (before.head? == some 'l' && after.head? == some 'l')
  | '\u0375' => some (after.head?.any (inRanges greekRanges))
  | '\u05f3' | '\u05f4' => some (before.head?.any (inRanges hebrewRanges))
  | '\u30fb' => some (label.any (inRanges japaneseRanges))
  | c =>
    if isArabicDigit c then some !(label.any isEasternDigit)
    else if isEasternDigit c then some !(label.any isArabicDigit)
    else none

/-- The fault where a character does not fit its neighbours. -/
def contextFault (c : Char) : LabelFault :=
  if c == '‌' || c == '‍' then .joiner else .context

/-- The first fault in the characters that remain; `before` holds those that came earlier, the
nearest first. -/
def characterFault? (label before : List Char) : List Char → Option LabelFault
  | [] => none
  | c :: rest =>
    match fitsNeighbours? label before c rest with
    | some true => characterFault? label (c :: before) rest
    | some false => some (contextFault c)
    | none =>
      if isLabelChar c then characterFault? label (c :: before) rest else some .character

/-! ### Labels -/

/-- The longest name of a server, with a point at its end. -/
def nameLimit : Nat := 254

/-- The longest label as it is sent. -/
def labelLimit : Nat := 63

/-- Whether the hyphens of a label stand inside, and not in its third and fourth place, which say how
it is written. -/
def hasGoodHyphens (cs : List Char) : Bool :=
  (cs.drop 2).take 2 != ['-', '-'] && cs.head? != some '-' && cs.getLast? != some '-'

/-- Whether a label has the form of one: it is not empty or too long, is composed, and starts with no
mark. -/
def hasLabelForm (cs : List Char) : Bool :=
  !cs.isEmpty && decide (cs.length ≤ nameLimit) && isComposed cs && hasGoodHyphens cs &&
    !cs.head?.any isMark

/-- What is wrong with a label of any script. The form goes before characters, and they go before
their direction. -/
def labelFault? (cs : List Char) : Option LabelFault :=
  if !hasLabelForm cs then some .form
  else
    match characterFault? cs [] cs with
    | some fault => some fault
    | none => if keepsDirection cs then none else some .direction

/-- What a label starts with that stands for one of another script. -/
def sentMark : List Char := "xn--".toList

/-- What is wrong with a label that is sent. One that stands for a label of another script is read
back. -/
def receivedFault? (cs : List Char) : Option LabelFault :=
  let label := cs.map Char.toLower
  match sentMark.isPrefixOf? label with
  | none => labelFault? label
  | some rest =>
    if rest.isEmpty || rest.getLast? == some '-' then some .form
    else
      match ofPunycode? rest with
      | some cs => labelFault? cs
      | none => some .form

/-- A label as it is sent, if it is one. -/
def sentLabel? (cs : List Char) : Option (List Char) :=
  let isPlain := cs.all fun c => c.toNat < 128
  let fault := if isPlain then receivedFault? cs else labelFault? cs
  let sent := if isPlain then cs else sentMark ++ punycode cs
  if fault.isNone && decide (sent.length ≤ labelLimit) then some sent else none

/-! ### Names -/

/-- The characters that part labels. -/
def labelMarks : List Char := ['.', '\u3002', '\uff0e', '\uff61']

/-- The labels of a name. One mark at the end may follow the last label. -/
def labelsOf (name : List Char) : List (List Char) :=
  let plain := name.map fun c => if labelMarks.contains c then '.' else c
  List.splitOn '.' (if plain.getLast? == some '.' then plain.dropLast else plain)

/-- A name of any script as it is sent, if it is one. -/
def sentName? (name : List Char) : Option (List Char) :=
  if nameLimit < name.length then none
  else
    let point := if name.getLast?.any labelMarks.contains then ['.'] else []
    match (labelsOf name).mapM sentLabel? with
    | none => none
    | some labels =>
      let sent := ['.'].intercalate labels
      if sent.length < nameLimit then some (sent ++ point) else none

/-- What is wrong with a name that is sent, if its first label stands for one of another script. -/
def nameFault? (name : List Char) : Option LabelFault :=
  if !sentMark.isPrefixOf name then none
  else if nameLimit < name.length then some .form
  else (labelsOf name).findSome? receivedFault?

example : (sentName? "bücher.test".toList).map String.ofList = some "xn--bcher-kva.test" := by
  decide +kernel

end FeatureAudit.Service
