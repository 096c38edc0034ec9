import FeatureAudit.Text.Utf8

/-!
Code units of 16 bits. A character beyond the first 65536 is a pair of units, a high half and a low
half.

* `unitsOf` writes a character, and `ofUnits` reads units.
* `ofUnits_unitsOf`: what is written reads back, whatever follows.
-/
namespace FeatureAudit.Text

/-- A unit that is the first half of a pair. -/
def isHighHalf (n : Nat) : Bool := 0xD800 ≤ n && n ≤ 0xDBFF

/-- A unit that is the second half of a pair. -/
def isLowHalf (n : Nat) : Bool := 0xDC00 ≤ n && n ≤ 0xDFFF

/-- The character of a pair. -/
def pairChar (high low : Nat) : Char :=
  Char.ofNat (0x10000 + (high - 0xD800) * 0x400 + (low - 0xDC00))

/-- The character of a unit by itself. Half of a pair is none, so it is marked. -/
def unitChar (n : Nat) : Char := if isHighHalf n || isLowHalf n then replacementMark else Char.ofNat n

/-- The units of a character. -/
def unitsOf (c : Char) : List Nat :=
  let n := c.toNat
  if n < 0x10000 then [n] else [0xD800 + (n - 0x10000) / 0x400, 0xDC00 + (n - 0x10000) % 0x400]

/-- The text that units write. -/
def ofUnits : List Nat → List Char
  | [] => []
  | [n] => [unitChar n]
  | n :: low :: rest =>
    if isHighHalf n && isLowHalf low then pairChar n low :: ofUnits rest
    else unitChar n :: ofUnits (low :: rest)

theorem unitChar_toNat (c : Char) : unitChar c.toNat = c := by
  have h : c.toNat.isValidChar := c.valid
  have hh : isHighHalf c.toNat = false := by
    simp only [isHighHalf, Bool.and_eq_false_iff, decide_eq_false_iff_not]
    rcases h with h | h <;> omega
  have hl : isLowHalf c.toNat = false := by
    simp only [isLowHalf, Bool.and_eq_false_iff, decide_eq_false_iff_not]
    rcases h with h | h <;> omega
  simp [unitChar, hh, hl]

theorem ofUnits_unitsOf (c : Char) (rest : List Nat) :
    ofUnits (unitsOf c ++ rest) = c :: ofUnits rest := by
  have hc : c.toNat.isValidChar := c.valid
  by_cases h : c.toNat < 0x10000
  · have hh : isHighHalf c.toNat = false := by
      simp only [isHighHalf, Bool.and_eq_false_iff, decide_eq_false_iff_not]
      rcases hc with hc | hc <;> omega
    cases rest with
    | nil => simp [unitsOf, h, ofUnits, unitChar_toNat]
    | cons low rest => simp [unitsOf, h, ofUnits, hh, unitChar_toNat]
  · have hlt : c.toNat < 0x110000 := by rcases hc with hc | hc <;> omega
    have hh : isHighHalf (0xD800 + (c.toNat - 0x10000) / 0x400) = true := by
      simp only [isHighHalf, Bool.and_eq_true, decide_eq_true_eq]
      omega
    have hl : isLowHalf (0xDC00 + (c.toNat - 0x10000) % 0x400) = true := by
      simp only [isLowHalf, Bool.and_eq_true, decide_eq_true_eq]
      omega
    have hn : 0x10000 + (0xD800 + (c.toNat - 0x10000) / 0x400 - 0xD800) * 0x400 +
        (0xDC00 + (c.toNat - 0x10000) % 0x400 - 0xDC00) = c.toNat := by omega
    simp only [unitsOf, h, if_false, List.cons_append, List.nil_append, ofUnits, hh, hl,
      Bool.and_self, if_true, pairChar, hn, Char.ofNat_toNat]

end FeatureAudit.Text
