import FeatureAudit.Text.Blank
import FeatureAudit.Text.Digit

/-!
Integers as people write them: blanks around, a sign, decimal digits of any script, and single
underscores between digits.
-/
namespace FeatureAudit.Text

/-- Blanks that may surround an integer: all but the four information separators. -/
def isIntegerBlank (c : Char) : Bool := isBlank c && !(28 ≤ c.toNat && c.toNat ≤ 31)

/-- The longest run of digits that is read as one integer. -/
def integerDigitLimit : Nat := 4300

/-- The wording where a run of digits is longer than that. -/
def integerLimitMessage (digits : Nat) : String :=
  s!"Exceeds the limit ({integerDigitLimit} digits) for integer string conversion: value has "
    ++ s!"{digits} digits; use sys.set_int_max_str_digits() to increase the limit"

/-- The values of digits with single underscores between them; `afterDigit` tells whether an
underscore may come next. -/
def digitValues? (afterDigit : Bool) : List Char → Option (List Nat)
  | [] => if afterDigit then some [] else none
  | c :: rest =>
    if c == '_' then
      if afterDigit then digitValues? false rest else none
    else
      match digitValue? c with
      | some n => (digitValues? true rest).map (n :: ·)
      | none => none

/-- The number that decimal digits write, most significant first. -/
def ofDigits (digits : List Nat) : Nat := digits.foldl (fun n d => 10 * n + d) 0

/-- The natural number that a text of digits and single underscores writes. -/
def natural? (cs : List Char) : Option Nat :=
  match digitValues? false cs with
  | some digits => if digits.length ≤ integerDigitLimit then some (ofDigits digits) else none
  | none => none

/-- The integer a text writes, if it writes one. -/
def integer? (s : String) : Option Int :=
  let trimmed := ((s.toList.dropWhile isIntegerBlank).reverse.dropWhile isIntegerBlank).reverse
  match trimmed with
  | '-' :: rest => (natural? rest).map fun n => -(n : Int)
  | '+' :: rest => (natural? rest).map fun n => (n : Int)
  | cs => (natural? cs).map fun n => (n : Int)

end FeatureAudit.Text
