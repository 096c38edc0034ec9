import Mathlib.Algebra.Order.Round
import Mathlib.Data.Rat.Floor
import FeatureAudit.Score

/-!
# Scores

Scores are quotients of whole numbers, rounded to the nearest one. Two inequalities tell which number that
is, and the order of the quotients is kept.

* **`roundHalfUp_eq_iff`** — the number to which a quotient is rounded.
* **`roundHalfUp_eq_round`** — the quotient as a rational number, and its rounding.
* **`roundHalfUp_le_roundHalfUp`**, **`roundHalfUp_bounds`** — rounding keeps the order of quotients, and so
  the whole numbers between which a quotient lies.
* **`riskScore_le_of_weight_le`**, **`riskScore_bounds`** — the risk follows what fails, from 0 to 100.
-/
namespace FeatureAudit

variable {n n' d d' s : Int}

/-- A quotient is rounded to the one number that is less than a half above it, or at most a half below. -/
theorem roundHalfUp_eq_iff (hd : 0 < d) :
    roundHalfUp n d = s ↔ 2 * n - d < 2 * d * s ∧ 2 * d * s ≤ 2 * n + d := by
  have hd' : 0 < 2 * d := by omega
  rw [roundHalfUp, Int.fdiv_eq_ediv_of_nonneg _ (Int.le_of_lt hd')]
  -- a half is added before the quotient is cut off, so both bounds are those of a cut quotient
  constructor
  · rintro rfl
    have hle := Int.mul_ediv_self_le (x := 2 * n + d) (k := 2 * d) (by omega)
    have hlt := Int.lt_mul_ediv_self_add (x := 2 * n + d) (k := 2 * d) hd'
    omega
  · rintro ⟨hlt, hle⟩
    apply Int.le_antisymm
    · apply Int.le_of_lt_add_one
      apply Int.ediv_lt_of_lt_mul hd'
      rw [show (s + 1) * (2 * d) = 2 * d * s + 2 * d by ring]
      omega
    · apply Int.le_ediv_of_mul_le hd'
      rw [show s * (2 * d) = 2 * d * s by ring]
      exact hle

/-- The rounding of integers is the one of rational numbers, halves upwards included. -/
theorem roundHalfUp_eq_round (hd : 0 < d) : roundHalfUp n d = round ((n : ℚ) / d) := by
  obtain ⟨hlt, hle⟩ := (roundHalfUp_eq_iff (n := n) hd).1 rfl
  have hd' : (0 : ℚ) < d := by exact_mod_cast hd
  have hlt' : 2 * (n : ℚ) - d < 2 * d * (roundHalfUp n d : ℚ) := by exact_mod_cast hlt
  have hle' : 2 * (d : ℚ) * (roundHalfUp n d : ℚ) ≤ 2 * n + d := by exact_mod_cast hle
  symm
  apply round_eq_iff.2
  constructor
  · rw [le_div_iff₀ hd']
    linarith
  · rw [div_lt_iff₀ hd']
    linarith

/-- Rounding keeps the order of quotients, here with the denominators multiplied out. -/
theorem roundHalfUp_le_roundHalfUp (hd : 0 < d) (hd' : 0 < d') (h : n * d' ≤ n' * d) :
    roundHalfUp n d ≤ roundHalfUp n' d' := by
  have hquotient : (n : ℚ) / d ≤ n' / d' := by
    rw [div_le_div_iff₀ (by exact_mod_cast hd) (by exact_mod_cast hd')]
    exact_mod_cast h
  rw [roundHalfUp_eq_round hd, roundHalfUp_eq_round hd', round_eq, round_eq]
  apply Int.floor_le_floor
  linarith

theorem roundHalfUp_one (s : Int) : roundHalfUp s 1 = s := by
  apply (roundHalfUp_eq_iff Int.one_pos).2
  omega

/-- A quotient between two whole numbers is rounded to one between them. -/
theorem roundHalfUp_bounds {low high : Int} (hd : 0 < d) (hlow : low * d ≤ n) (hhigh : n ≤ high * d) :
    low ≤ roundHalfUp n d ∧ roundHalfUp n d ≤ high := by
  have hlow' : roundHalfUp low 1 ≤ roundHalfUp n d :=
    roundHalfUp_le_roundHalfUp Int.one_pos hd (by omega)
  have hhigh' : roundHalfUp n d ≤ roundHalfUp high 1 :=
    roundHalfUp_le_roundHalfUp hd Int.one_pos (by omega)
  rw [roundHalfUp_one] at hlow' hhigh'
  exact ⟨hlow', hhigh'⟩

/-! ## The risk -/

section Risk

variable {errors errors' warnings warnings' total total' : Nat}

/-- The risk is a quotient: an error weighs as much as three warnings, and the worst case is all errors. -/
theorem riskScore_of_pos (hpos : 0 < total) (errors warnings : Int) :
    riskScore errors warnings total = roundHalfUp (100 * (3 * errors + warnings)) (3 * total) := by
  rw [riskScore, errorWeight, warningWeight, if_neg (by omega)]
  congr 1 <;> ring

/-- The risk is no larger where what fails weighs no more and what is used is no less. -/
theorem riskScore_le_of_weight_le (hpos : 0 < total) (htotal : total ≤ total')
    (hweight : 3 * errors' + warnings' ≤ 3 * errors + warnings) :
    riskScore errors' warnings' total' ≤ riskScore errors warnings total := by
  rw [riskScore_of_pos hpos, riskScore_of_pos (by omega)]
  apply roundHalfUp_le_roundHalfUp (by omega) (by omega)
  have hmul : (3 * errors' + warnings') * total ≤ (3 * errors + warnings) * total' :=
    Nat.mul_le_mul hweight htotal
  have hmul' : (3 * (errors' : Int) + warnings') * total ≤ (3 * errors + warnings) * total' := by
    exact_mod_cast hmul
  linarith

/-- Of as many uses, fewer errors and fewer warnings are no larger a risk. -/
theorem riskScore_le_riskScore (herrors : errors' ≤ errors) (hwarnings : warnings' ≤ warnings) :
    riskScore errors' warnings' total ≤ riskScore errors warnings total := by
  rcases Nat.eq_zero_or_pos total with rfl | hpos
  · exact Int.le_refl 0
  · exact riskScore_le_of_weight_le hpos (Nat.le_refl total) (by omega)

/-- Where no more fails than is used, the risk is a percentage. -/
theorem riskScore_bounds (h : errors + warnings ≤ total) :
    0 ≤ riskScore errors warnings total ∧ riskScore errors warnings total ≤ 100 := by
  rcases Nat.eq_zero_or_pos total with rfl | hpos
  · show (0 : Int) ≤ 0 ∧ (0 : Int) ≤ 100
    decide
  · rw [riskScore_of_pos hpos]
    apply roundHalfUp_bounds <;> omega

theorem riskScore_self (hpos : 0 < total) : riskScore total 0 total = 100 := by
  rw [riskScore_of_pos hpos, roundHalfUp_eq_iff (by omega)]
  omega

end Risk

end FeatureAudit
