import FeatureAudit.Text.Mark

/-!
The direction in which characters are written.
-/
namespace FeatureAudit.Text

/-- Directions. The digits of the Arabic script are written from left to right within a text that
runs the other way, as other digits are; both kinds have to be told apart there. -/
inductive Direction where
  | leftToRight
  | rightToLeft
  | arabicNumber
  | number
  | neutral
  | mark
  deriving DecidableEq, Repr

/-- Ranges whose letters and digits are written from right to left (Unicode 14). -/
def rightToLeftRanges : List (Nat × Nat) := [
  (0x05D0, 0x05F4), (0x0620, 0x064A), (0x066E, 0x066F), (0x0671, 0x06D5), (0x06E5, 0x06E6),
  (0x06EE, 0x06EF), (0x06FA, 0x0710), (0x0712, 0x072F), (0x074D, 0x07A5), (0x07B1, 0x07EA),
  (0x07F4, 0x07F5), (0x0800, 0x0815), (0x081A, 0x081A), (0x0824, 0x0824), (0x0828, 0x0828),
  (0x0840, 0x0858), (0x0860, 0x088E), (0x08A0, 0x08C9), (0xFE73, 0xFE73), (0x10800, 0x10A00),
  (0x10A10, 0x10A35), (0x10A60, 0x10AE4), (0x10B00, 0x10D23), (0x10E80, 0x10EA9),
  (0x10EB0, 0x10F45), (0x10F70, 0x10F81), (0x10FB0, 0x10FF6), (0x1E800, 0x1E8C4),
  (0x1E922, 0x1E943), (0x1E94B, 0x1E959)]

/-- Digits of the Arabic script. -/
def arabicNumberRanges : List (Nat × Nat) := [(0x0660, 0x0669), (0x10D30, 0x10D39)]

/-- Other digits that keep their direction. -/
def numberRanges : List (Nat × Nat) := [(0x30, 0x39), (0x06F0, 0x06F9)]

/-- Letters and signs that take the direction of their neighbours. -/
def neutralRanges : List (Nat × Nat) := [
  (0x2D, 0x2D), (0x00B7, 0x00B7), (0x02B9, 0x02BA), (0x02C6, 0x02CF), (0x02EC, 0x02EC),
  (0x0375, 0x0375), (0x200C, 0x200D), (0x2E2F, 0x2E2F), (0x30FB, 0x30FB), (0xA67F, 0xA67F),
  (0xA717, 0xA71F), (0xA788, 0xA788)]

/-- Marks without room of their own that are written like a letter. -/
def directedMarkRanges : List (Nat × Nat) := [
  (0x0CBF, 0x0CBF), (0x0CC6, 0x0CC6), (0x11A07, 0x11A08), (0x11C3F, 0x11C3F)]

/-- The direction of a letter, a digit, a mark, or a sign between them. -/
def directionOf (c : Char) : Direction :=
  if inRanges numberRanges c then .number
  else if inRanges arabicNumberRanges c then .arabicNumber
  else if inRanges neutralRanges c then .neutral
  else if isNonspacing c && !inRanges directedMarkRanges c then .mark
  else if inRanges rightToLeftRanges c then .rightToLeft
  else .leftToRight

/-- Whether a character makes a text one that runs from right to left. -/
def Direction.isTurned : Direction → Bool
  | .rightToLeft | .arabicNumber => true
  | _ => false

/-- Whether a text may stand by itself among others, whatever their direction. With a character that
runs from right to left it has to start with such a letter, to hold none that runs the other way, to
end with a letter or a digit, marks aside, and to keep to one kind of digits. -/
def keepsDirection (cs : List Char) : Bool :=
  let directions := cs.map directionOf
  let last := (directions.reverse.dropWhile (· == .mark)).head?
  !directions.any Direction.isTurned ||
    (directions.head? == some .rightToLeft && !directions.contains .leftToRight &&
      (last == some .rightToLeft || last == some .number || last == some .arabicNumber) &&
      !(directions.contains .number && directions.contains .arabicNumber))

example : keepsDirection ['a', '1'] && keepsDirection ['\u05d0', '1'] &&
    !keepsDirection ['1', '\u05d0'] && !keepsDirection ['\u05d0', 'a'] := by decide +kernel

end FeatureAudit.Text
