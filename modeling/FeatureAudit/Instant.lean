/-!
Moments as text: a date of the Gregorian calendar and a time of day, in universal time.

* `Date.ofDays` is the date some days after the first of January 1970.
* `instantText` writes a moment that is given in microseconds since then.
-/
namespace FeatureAudit

/-- A date of the Gregorian calendar. -/
structure Date where
  year : Nat
  month : Nat
  day : Nat
  deriving DecidableEq, Repr

/-- The days of four hundred years, after which the calendar repeats. -/
def daysOfCycle : Nat := 146097

/-- The date some days after the first of January 1970. Years are counted from March on, so that the
day of a leap year comes last and the months before it have the same lengths in every year. -/
def Date.ofDays (days : Nat) : Date :=
  let shifted := days + 719468
  let inCycle := shifted % daysOfCycle
  let yearInCycle := (inCycle - inCycle / 1460 + inCycle / 36524 - inCycle / 146096) / 365
  let inYear := inCycle - (365 * yearInCycle + yearInCycle / 4 - yearInCycle / 100)
  let fromMarch := (5 * inYear + 2) / 153
  let month := if fromMarch < 10 then fromMarch + 3 else fromMarch - 9
  { year := shifted / daysOfCycle * 400 + yearInCycle + if month ≤ 2 then 1 else 0
    month
    day := inYear - (153 * fromMarch + 2) / 5 + 1 }

/-- The calendar repeats after four hundred years: the days of a later cycle have the same months and days of the month,
and their years are four hundred more. -/
theorem Date.ofDays_add_daysOfCycle (days : Nat) :
    Date.ofDays (days + daysOfCycle) = { Date.ofDays days with year := (Date.ofDays days).year + 400 } := by
  have hshifted : days + daysOfCycle + 719468 = days + 719468 + daysOfCycle := Nat.add_right_comm ..
  have hcycle : (days + 719468 + daysOfCycle) % daysOfCycle = (days + 719468) % daysOfCycle := Nat.add_mod_right ..
  have hyears : (days + 719468 + daysOfCycle) / daysOfCycle = (days + 719468) / daysOfCycle + 1 :=
    Nat.add_div_right _ (by decide)
  simp only [Date.ofDays, hshifted, hcycle, hyears, Date.mk.injEq, and_true]
  omega

example : Date.ofDays (11016 + daysOfCycle) = ⟨2000 + 400, 2, 29⟩ := by decide

/-- A number with zeros in front, up to a width. -/
def padded (width n : Nat) : String :=
  let digits := Nat.toDigits 10 n
  String.ofList (List.replicate (width - digits.length) '0' ++ digits)

/-- A moment as text, with as many parts of a second as there are. -/
def instantText (microseconds : Nat) : String :=
  let seconds := microseconds / 1000000
  let part := microseconds % 1000000
  let date := Date.ofDays (seconds / 86400)
  let day := s!"{padded 4 date.year}-{padded 2 date.month}-{padded 2 date.day}"
  let time := s!"{padded 2 (seconds / 3600 % 24)}:{padded 2 (seconds / 60 % 60)}:"
    ++ padded 2 (seconds % 60)
  day ++ "T" ++ time ++ (if part = 0 then "" else "." ++ padded 6 part) ++ "+00:00"

end FeatureAudit
