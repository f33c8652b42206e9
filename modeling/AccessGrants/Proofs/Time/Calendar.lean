import AccessGrants.Time.Calendar
import Mathlib.Algebra.Ring.Nat

/-!
# AccessGrants.Proofs.Time.Calendar

The date of a day is a date of the calendar, and it is that of this day.

* `yearOf_spec`         — a day falls into its year.
* `monthOf_spec`        — a day of the year falls into its month.
* `valid_ofDayNumber`, `dayNumber_ofDayNumber` — so there is such a date, and its day is this one.
-/

namespace AccessGrants.Calendar

/-- The number of days of a year. -/
def yearLength (leap : Bool) : Nat :=
  (monthLengths leap).sum

theorem daysBeforeYear_succ (year : Int) :
    daysBeforeYear (year + 1) = daysBeforeYear year + yearLength (isLeap year) := by
  have hlength : ∀ leap, yearLength leap = if leap then 366 else 365 := by decide
  rw [hlength]
  -- the three quotients grow by one after every fourth, hundredth and four hundredth year
  by_cases h4 : year % 4 = 0
  · by_cases h100 : year % 100 = 0
    · by_cases h400 : year % 400 = 0
      · simp [isLeap, daysBeforeYear, h4, h400]
        omega
      · simp [isLeap, daysBeforeYear, h4, h100, h400]
        omega
    · simp [isLeap, daysBeforeYear, h4, h100]
      omega
  · simp [isLeap, daysBeforeYear, h4]
    omega

theorem yearOf_spec (day : Int) :
    daysBeforeYear (yearOf day) ≤ day ∧ day < daysBeforeYear (yearOf day + 1) := by
  rw [yearOf]
  split
  · rename_i hbefore
    rw [Int.sub_add_cancel]
    refine ⟨?_, hbefore⟩
    simp only [daysBeforeYear] at hbefore ⊢
    omega
  · rename_i hfrom
    split
    · rename_i hafter
      refine ⟨hafter, ?_⟩
      simp only [daysBeforeYear] at hafter ⊢
      omega
    · rename_i hupto
      exact ⟨by omega, by omega⟩

theorem dayOfYear_lt (day : Int) :
    (day - daysBeforeYear (yearOf day)).toNat < (monthLengths (isLeap (yearOf day))).sum := by
  obtain ⟨hfrom, hupto⟩ := yearOf_spec day
  rw [daysBeforeYear_succ, yearLength] at hupto
  omega

/-- A day of a span falls into one of the parts that make up the span. -/
theorem monthOf_spec {lengths : List Nat} {day : Nat} (month : Nat) (h : day < lengths.sum) :
    ∃ i length, lengths[i]? = some length ∧ ∃ left, left < length ∧
      monthOf month day lengths = (month + i, left + 1) ∧ (lengths.take i).sum + left = day := by
  induction lengths generalizing month day with
  | nil => cases h
  | cons first rest ih =>
    rw [monthOf]
    split
    · rename_i hday
      exact ⟨0, first, rfl, day, hday, rfl, by simp⟩
    · rename_i hday
      rw [List.sum_cons] at h
      have hrest : day - first < rest.sum := by omega
      obtain ⟨i, length, hlength, left, hleft, hmonth, hsum⟩ := ih (month + 1) hrest
      refine ⟨i + 1, length, hlength, left, hleft, ?_, ?_⟩
      · rw [hmonth, Nat.add_assoc, Nat.add_comm 1 i]
      · rw [List.take_succ_cons, List.sum_cons]
        omega

namespace Date

/-- The date of a day, month by month of its year. -/
theorem ofDayNumber_spec (number : Int) : ∃ i length,
    (monthLengths (isLeap (ofDayNumber number).year))[i]? = some length ∧
      (ofDayNumber number).month = i + 1 ∧ 1 ≤ (ofDayNumber number).day ∧
      (ofDayNumber number).day ≤ length ∧ (ofDayNumber number).dayNumber = number := by
  have hday := dayOfYear_lt (number + epochDay)
  have hyear := yearOf_spec (number + epochDay)
  obtain ⟨i, length, hlength, left, hleft, hmonth, hsum⟩ := monthOf_spec 1 hday
  have hdate : ofDayNumber number = ⟨yearOf (number + epochDay), 1 + i, left + 1⟩ := by
    rw [ofDayNumber, hmonth]
  rw [hdate]
  refine ⟨i, length, hlength, Nat.add_comm 1 i, Nat.le_add_left 1 left, hleft, ?_⟩
  rw [dayNumber, daysBeforeMonth, Nat.add_sub_cancel_left, ← List.sum_eq_foldl_nat]
  dsimp only
  omega

theorem dayNumber_ofDayNumber (number : Int) : (ofDayNumber number).dayNumber = number := by
  obtain ⟨_, _, _, _, _, _, h⟩ := ofDayNumber_spec number
  exact h

theorem valid_ofDayNumber (number : Int) : (ofDayNumber number).valid = true := by
  obtain ⟨i, length, hlength, hmonth, hfirst, hlast, -⟩ := ofDayNumber_spec number
  rw [valid, hmonth, monthLength, hlength, Option.getD_some]
  simp [hfirst, hlast]

theorem ofDayNumber_lt (number : Int) :
    (ofDayNumber number).month < 100 ∧ (ofDayNumber number).day < 100 := by
  obtain ⟨i, length, hlength, hmonth, -, hlast, -⟩ := ofDayNumber_spec number
  have hlong : ∀ leap, ∀ l ∈ monthLengths leap, l < 100 := by decide
  have hcount : ∀ leap, (monthLengths leap).length = 12 := by decide
  have hi : i < 12 := hcount _ ▸ (List.getElem?_eq_some_iff.mp hlength).1
  have hday := hlong _ length (List.mem_of_getElem? hlength)
  omega

end Date

end AccessGrants.Calendar
