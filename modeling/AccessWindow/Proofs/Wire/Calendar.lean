import AccessWindow.Time.Calendar
import Mathlib.Logic.Basic
import Mathlib.Tactic.SplitIfs

namespace AccessWindow.Time.Date

/-- A day counted from 1 March of the year 0, by its year and its month from March on. The day that
ends a year is missing unless the year is the last of four, and then unless those end a century that
does not end a cycle. -/
structure Split (n cycle century four single month day : Int) : Prop where
  century_range : 0 ≤ century ∧ century ≤ 3
  four_range : 0 ≤ four ∧ four ≤ 24
  single_range : 0 ≤ single ∧ single ≤ 3
  month_range : 0 ≤ month ∧ month ≤ 11
  total : n = cycle * 146097 + century * 36524 + four * 1461 + single * 365 + daysToMonth month +
    (day - 1)
  day_range : 1 ≤ day ∧ daysToMonth month + day ≤ daysToMonth (month + 1)
  last : daysToMonth month + day ≤ 366
  leap : daysToMonth month + day = 366 → single = 3 ∧ (four = 24 → century = 3)

theorem ofDayNumber_split (n : Int) : ∃ cycle century four single month day,
    Split (n + epochOffset) cycle century four single month day ∧
      ofDayNumber n =
        if month < 10 then
          ⟨cycle * 400 + century * 100 + four * 4 + single, (month + 3).toNat, day.toNat⟩
        else
          ⟨cycle * 400 + century * 100 + four * 4 + single + 1, (month - 9).toNat, day.toNat⟩ := by
  rw [ofDayNumber]
  generalize n + epochOffset = m
  refine ⟨_, _, _, _, _, _, ?_, rfl⟩
  generalize hcycle : m / 146097 = cycle
  generalize hrest : m % 146097 = rest
  have cycles : m = cycle * 146097 + rest ∧ 0 ≤ rest ∧ rest ≤ 146096 := by omega
  generalize hcentury : min (rest / 36524) 3 = century
  generalize hinCentury : rest - century * 36524 = inCentury
  have centuries : 0 ≤ century ∧ century ≤ 3 ∧ 0 ≤ inCentury ∧ inCentury ≤ 36524 ∧
      (inCentury = 36524 → century = 3) := by omega
  generalize hfour : inCentury / 1461 = four
  generalize hinFour : inCentury % 1461 = inFour
  have fours : inCentury = four * 1461 + inFour ∧ 0 ≤ inFour ∧ inFour ≤ 1460 ∧ 0 ≤ four ∧
      four ≤ 24 := by omega
  generalize hsingle : min (inFour / 365) 3 = single
  generalize hinYear : inFour - single * 365 = inYear
  have singles : 0 ≤ single ∧ single ≤ 3 ∧ 0 ≤ inYear ∧ inYear ≤ 365 ∧
      (inYear = 365 → single = 3 ∧ inFour = 1460) := by omega
  generalize hmonth : (5 * inYear + 2) / 153 = month
  have months : 0 ≤ month ∧ month ≤ 11 ∧ 153 * month ≤ 5 * inYear + 2 ∧
      5 * inYear + 2 < 153 * (month + 1) := by omega
  clear hcycle hrest hcentury hfour hinFour hsingle hmonth
  constructor <;> (try simp only [daysToMonth]) <;> omega

variable {n cycle century four single month day : Int}

theorem Split.daysBefore_year (h : Split n cycle century four single month day) :
    daysBefore (cycle * 400 + century * 100 + four * 4 + single) =
      cycle * 146097 + century * 36524 + four * 1461 + single * 365 := by
  obtain ⟨_, _⟩ := h.century_range
  obtain ⟨_, _⟩ := h.four_range
  obtain ⟨_, _⟩ := h.single_range
  simp only [daysBefore]
  omega

theorem dayNumber_ofDayNumber (n : Int) : (ofDayNumber n).dayNumber = n := by
  obtain ⟨cycle, century, four, single, month, day, h, hdate⟩ := ofDayNumber_split n
  have before := h.daysBefore_year
  have total := h.total
  obtain ⟨_, _⟩ := h.month_range
  obtain ⟨_, _⟩ := h.day_range
  rw [hdate]
  split
  · have index : (((month + 3).toNat : Int) + 9) % 12 = month := by omega
    simp only [dayNumber]
    rw [if_neg (by omega), index, before]
    omega
  · have index : (((month - 9).toNat : Int) + 9) % 12 = month := by omega
    simp only [dayNumber]
    rw [if_pos (by omega), index, Int.add_sub_cancel, before]
    omega

theorem leapYear_iff {year : Int} :
    leapYear year ↔ year % 4 = 0 ∧ (year % 100 = 0 → year % 400 = 0) := by
  simp only [leapYear, Bool.and_eq_true, Bool.or_eq_true, decide_eq_true_eq, ne_eq]
  rw [← imp_iff_not_or]

theorem Split.leapYear (h : Split n cycle century four single month day)
    (full : daysToMonth month + day = 366) :
    Date.leapYear (cycle * 400 + century * 100 + four * 4 + single + 1) := by
  obtain ⟨_, _⟩ := h.century_range
  obtain ⟨_, _⟩ := h.four_range
  obtain ⟨_, _⟩ := h.leap full
  rw [leapYear_iff]
  omega

theorem real_ofDayNumber (n : Int) : (ofDayNumber n).real := by
  obtain ⟨cycle, century, four, single, month, day, h, hdate⟩ := ofDayNumber_split n
  obtain ⟨_, _⟩ := h.month_range
  obtain ⟨_, hday⟩ := h.day_range
  have last := h.last
  have short : leapYear (cycle * 400 + century * 100 + four * 4 + single + 1) = false →
      daysToMonth month + day ≤ 365 := by
    intro common
    have : daysToMonth month + day ≠ 366 := fun full => by simp [h.leapYear full] at common
    omega
  rw [hdate]
  simp only [daysToMonth] at hday last short
  split
  · refine ⟨by simp only; omega, by simp only; omega, by simp only; omega, ?_⟩
    simp only [monthLength]
    split_ifs <;> omega
  · refine ⟨by simp only; omega, by simp only; omega, by simp only; omega, ?_⟩
    cases hleap : leapYear (cycle * 400 + century * 100 + four * 4 + single + 1) with
    | true =>
      simp only [monthLength, hleap, if_true]
      split_ifs <;> omega
    | false =>
      have := short hleap
      simp only [monthLength, hleap, Bool.false_eq_true, if_false]
      split_ifs <;> omega

end AccessWindow.Time.Date
