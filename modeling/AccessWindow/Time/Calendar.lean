/-! The Gregorian calendar, extended in both directions, and its days counted from 1 January 1970.
Years are taken from March to February, so that a leap day is the last day of its year. -/

namespace AccessWindow.Time

structure Date where
  year : Int
  month : Nat
  day : Nat
  deriving DecidableEq

namespace Date

def leapYear (year : Int) : Bool := year % 4 = 0 && (year % 100 ≠ 0 || year % 400 = 0)

def monthLength (year : Int) (month : Nat) : Nat :=
  if month = 2 then (if leapYear year then 29 else 28)
  else if month = 4 ∨ month = 6 ∨ month = 9 ∨ month = 11 then 30
  else 31

def real (d : Date) : Prop :=
  1 ≤ d.month ∧ d.month ≤ 12 ∧ 1 ≤ d.day ∧ d.day ≤ monthLength d.year d.month

instance (d : Date) : Decidable d.real := by unfold real; infer_instance

def epochOffset : Int := 719468

def daysBefore (year : Int) : Int :=
  year / 400 * 146097 + year % 400 / 100 * 36524 + year % 100 / 4 * 1461 + year % 4 * 365

def daysToMonth (month : Int) : Int := (153 * month + 2) / 5

def dayNumber (d : Date) : Int :=
  let month : Int := (d.month + 9) % 12
  let year := if d.month ≤ 2 then d.year - 1 else d.year
  daysBefore year + daysToMonth month + (d.day - 1) - epochOffset

/-- Undoes `dayNumber`; the last day of a leap year and of a cycle belongs to the year that it
ends. -/
def ofDayNumber (n : Int) : Date :=
  let n := n + epochOffset
  let cycle := n / 146097
  let n := n % 146097
  let century := min (n / 36524) 3
  let n := n - century * 36524
  let four := n / 1461
  let n := n % 1461
  let single := min (n / 365) 3
  let n := n - single * 365
  let month := (5 * n + 2) / 153
  let year := cycle * 400 + century * 100 + four * 4 + single
  let day := n - daysToMonth month + 1
  if month < 10 then ⟨year, (month + 3).toNat, day.toNat⟩
  else ⟨year + 1, (month - 9).toNat, day.toNat⟩

example : dayNumber ⟨1970, 1, 1⟩ = 0 := by decide
example : dayNumber ⟨2000, 2, 29⟩ = 11016 ∧ ofDayNumber 11016 = ⟨2000, 2, 29⟩ := by decide
example : ofDayNumber (-719529) = ⟨-1, 12, 31⟩ := by decide

end Date

end AccessWindow.Time
