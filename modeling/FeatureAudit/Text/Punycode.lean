/-!
Text of any script as letters, digits and hyphens.

The characters of ASCII are written first. A hyphen ends them, and after it stand the others by
rising code point, each as the distance from the place of the one before, in digits of base 36. How
far the digits of a number reach depends on the numbers before it (`adapted`).

* `punycode` writes a text, and `ofPunycode?` reads one.
-/
namespace FeatureAudit.Text.Punycode

/-- The base of the digits. -/
def base : Nat := 36

/-- The lowest code point that is not written as it stands. -/
def firstBeyond : Nat := 128

/-- The bias before the first number. -/
def firstBias : Nat := 72

/-- The least digit of a number's last place and beyond: a digit below it ends the number. -/
def threshold (place bias : Nat) : Nat := min 26 (max 1 (base * (place + 1) - bias))

/-- A large number brought down, and how many digits that takes. -/
def broughtDown (n places : Nat) : Nat × Nat :=
  if 455 < n then broughtDown (n / 35) (places + 1) else (n, places)
termination_by n
decreasing_by exact Nat.div_lt_self (by omega) (by omega)

/-- The bias after a number, where `count` characters have been placed. The first number is far
larger than those after it. -/
def adapted (n count : Nat) (isFirst : Bool) : Nat :=
  let near := if isFirst then n / 700 else n / 2
  let (rest, places) := broughtDown (near + near / count) 0
  base * places + base * rest / (rest + 38)

/-! ### Writing -/

/-- A digit: letters first, then the digits. -/
def digitChar (d : Nat) : Char :=
  if d < 26 then Char.ofNat ('a'.toNat + d) else Char.ofNat ('0'.toNat + (d - 26))

theorem threshold_pos (place bias : Nat) : 1 ≤ threshold place bias := by
  unfold threshold
  omega

/-- The digits of a number, the lowest first. -/
def digitsOf (bias place n : Nat) : List Char :=
  let t := threshold place bias
  if n < t then [digitChar n]
  else digitChar (t + (n - t) % (base - t)) :: digitsOf bias (place + 1) ((n - t) / (base - t))
termination_by n
decreasing_by
  have := threshold_pos place bias
  have := Nat.div_le_self (n - threshold place bias) (base - threshold place bias)
  omega

/-- What has been written: the number that grows until the next character, the bias, and how many
characters have a place. -/
structure Progress where
  digits : List Char := []
  distance : Nat := 0
  bias : Nat := firstBias
  placed : Nat
  isFirst : Bool := true

/-- Pass over a character of the text while those of one code point are placed. -/
def Progress.pass (point : Nat) (p : Progress) (c : Char) : Progress :=
  if c.toNat < point then { p with distance := p.distance + 1 }
  else if c.toNat = point then
    { digits := p.digits ++ digitsOf p.bias 0 p.distance
      bias := adapted p.distance (p.placed + 1) p.isFirst
      placed := p.placed + 1, isFirst := false }
  else p

/-- Place the characters of rising code points, the next of which is at least `least`. -/
def placeAll (cs : List Char) (least : Nat) (p : Progress) : List Nat → List Char
  | [] => p.digits
  | point :: rest =>
    let near := { p with distance := p.distance + (point - least) * (p.placed + 1) }
    let done := cs.foldl (Progress.pass point) near
    placeAll cs (point + 1) { done with distance := done.distance + 1 } rest

/-- The code points beyond ASCII, rising. -/
def pointsBeyond (cs : List Char) : List Nat :=
  ((cs.map Char.toNat).filter (firstBeyond ≤ ·)).mergeSort.eraseDups

/-! ### Reading -/

/-- The value of a digit. -/
def digitValue? (c : Char) : Option Nat :=
  if 'a' ≤ c && c ≤ 'z' then some (c.toNat - 'a'.toNat)
  else if 'A' ≤ c && c ≤ 'Z' then some (c.toNat - 'A'.toNat)
  else if '0' ≤ c && c ≤ '9' then some (c.toNat - '0'.toNat + 26)
  else none

/-- The number with which a text starts, and the text after it. -/
def readNumber (bias place weight sum : Nat) : List Char → Option (Nat × List Char)
  | [] => none
  | c :: rest =>
    match digitValue? c with
    | none => none
    | some d =>
      let t := threshold place bias
      let next := sum + d * weight
      if d < t then some (next, rest)
      else readNumber bias (place + 1) (weight * (base - t)) next rest

theorem length_of_readNumber {bias place weight sum n : Nat} {cs rest : List Char}
    (h : readNumber bias place weight sum cs = some (n, rest)) : rest.length < cs.length := by
  induction cs generalizing place weight sum with
  | nil => simp [readNumber] at h
  | cons c cs ih =>
    simp only [readNumber] at h
    split at h
    · simp at h
    · split at h
      · simp only [Option.some.injEq, Prod.mk.injEq] at h
        simp [h.2]
      · have := ih h
        simp only [List.length_cons]
        omega

/-- Read distances and put the characters in their places. There is no code point above
`0x10FFFF`. -/
def readAfter (placed : List Char) (point index bias : Nat) (isFirst : Bool) (cs : List Char) :
    Option (List Char) :=
  if cs.isEmpty then some placed
  else
    match h : readNumber bias 0 1 0 cs with
    | none => none
    | some (n, rest) =>
      let count := placed.length + 1
      let point := point + (index + n) / count
      let index := (index + n) % count
      if 0x10FFFF < point then none
      else
        readAfter (placed.take index ++ Char.ofNat point :: placed.drop index) point (index + 1)
          (adapted n count isFirst) false rest
termination_by cs.length
decreasing_by exact length_of_readNumber h

end FeatureAudit.Text.Punycode

namespace FeatureAudit.Text

open Punycode

/-- A text of any script, written with ASCII alone. -/
def punycode (cs : List Char) : List Char :=
  let plain := cs.filter fun c => c.toNat < firstBeyond
  let digits := placeAll cs firstBeyond { placed := plain.length } (pointsBeyond cs)
  if plain.isEmpty then digits else plain ++ '-' :: digits

/-- Read what is written with ASCII alone. The last hyphen ends the characters that stand for
themselves. -/
def ofPunycode? (cs : List Char) : Option (List Char) :=
  let digits := (cs.reverse.takeWhile (· != '-')).reverse
  readAfter (cs.take (cs.length - digits.length)).dropLast firstBeyond 0 firstBias true digits

example : String.ofList (punycode "bücher".toList) = "bcher-kva" := by cbv

example : ofPunycode? "bcher-kva".toList = some "bücher".toList := by cbv

end FeatureAudit.Text
