import FeatureAudit.Decimal.Binary64

/-!
The shortest decimal that reads back as a given number, and its text.

* `shortest?` finds the fewest digits, of those the nearest decimal, of two as near the even one.
* `Layout` says where positional notation ends and how an exponent is written; `Binary64.text`
  writes a number in the layout of this library's output.
-/
namespace FeatureAudit.Decimal

/-- A positive decimal `0.d₁d₂… · 10 ^ point`. -/
structure Digits where
  digits : List Char
  point : Int
  deriving DecidableEq, Repr

/-- The least `k` from `k₀` on with `num / den < 10 ^ k`, looked for in `fuel` steps. -/
def pointFrom (num den : Nat) : Nat → Int → Int
  | 0, k => k
  | fuel + 1, k =>
    let below := if k ≥ 0 then num < den * Nat.pow 10 k.toNat else num * Nat.pow 10 (-k).toNat < den
    if below then k else pointFrom num den fuel (k + 1)

/-- `num / den · 10 ^ shift`, rounded down, with whether the next integer goes first: it is nearer,
or as near and even. -/
def gridBelow (num den : Nat) (shift : Int) : Nat × Bool :=
  let (n, d) :=
    if shift ≥ 0 then (num * Nat.pow 10 shift.toNat, den)
    else (num, den * Nat.pow 10 (-shift).toNat)
  (n / d, 2 * (n % d) > d || (2 * (n % d) == d && n / d % 2 == 1))

/-- The decimal of `count` digits nearest to the number that reads back as it. -/
def withDigits? (m : Nat) (e : Int) (num den : Nat) (point : Int) (count : Nat) : Option Digits :=
  let shift : Int := count - point
  let (below, upGoesFirst) := gridBelow num den shift
  let readsBack (n : Nat) : Bool := ofDecimal false n (-shift) == .finite false m e
  let candidates := if upGoesFirst then [below + 1, below] else [below, below + 1]
  (candidates.find? readsBack).map fun n =>
    let text := Nat.toDigits 10 n
    ⟨text, point + (text.length - count : Int)⟩

/-- The shortest decimal that reads back as the positive number `m · 2 ^ e`. -/
def shortest? (m : Nat) (e : Int) : Option Digits :=
  let num := if e ≥ 0 then m * Nat.pow 2 e.toNat else m
  let den := if e ≥ 0 then 1 else Nat.pow 2 (-e).toNat
  -- A power of ten between 10 ^ -324 and 10 ^ 309 bounds every positive number.
  let point := pointFrom num den 640 (-324)
  (List.range 17).findSome? fun i => withDigits? m e num den point (i + 1)

/-- How the digits of a number are laid out. -/
structure Layout where
  /-- Positional notation needs a point further right than this. -/
  leastPoint : Int
  /-- Positional notation needs a point no further right than this. -/
  greatestPoint : Int
  /-- An exponent has at least this many digits. -/
  exponentDigits : Nat
  infinity : String
  nan : String

/-- Numbers from 10 ^ -4 up to 10 ^ 16 are written out, and an integral one keeps `.0`. -/
def plainLayout : Layout := ⟨-4, 16, 2, "inf", "nan"⟩

/-- Digits without the zeros at their end. -/
def trimZeros (digits : List Char) : List Char :=
  (digits.reverse.dropWhile (· == '0')).reverse

/-- The digits laid out as text. -/
def Digits.text (layout : Layout) (d : Digits) : List Char :=
  let digits := trimZeros d.digits
  if layout.leastPoint < d.point ∧ d.point ≤ layout.greatestPoint then
    if d.point ≤ 0 then
      '0' :: '.' :: List.replicate (-d.point).toNat '0' ++ digits
    else
      let n := d.point.toNat
      if digits.length ≤ n then
        digits ++ List.replicate (n - digits.length) '0' ++ ['.', '0']
      else digits.take n ++ '.' :: digits.drop n
  else
    let exponent := d.point - 1
    let size := Nat.toDigits 10 exponent.natAbs
    let fraction := digits.drop 1
    digits.take 1 ++ (if fraction.isEmpty then [] else '.' :: fraction) ++
      ['e', if exponent < 0 then '-' else '+'] ++
      List.replicate (layout.exponentDigits - size.length) '0' ++ size

/-- The text of a number in a layout: the shortest decimal that reads back as it. -/
def Binary64.textIn (layout : Layout) : Binary64 → String
  | .nan => layout.nan
  | .infinite negative => (if negative then "-" else "") ++ layout.infinity
  | .finite negative m e =>
    let unsigned :=
      match shortest? m e with
      | some d => if m = 0 then "0.0" else String.ofList (d.text layout)
      | none => "0.0"
    (if negative then "-" else "") ++ unsigned

/-- The text of a number. -/
def Binary64.text (x : Binary64) : String := x.textIn plainLayout

end FeatureAudit.Decimal
