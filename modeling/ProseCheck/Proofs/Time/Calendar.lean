import Mathlib.Tactic.IntervalCases
import ProseCheck.Time.Calendar

/-! # Days and dates

Every day has a date, and the date gives the day back. Four hundred years are three centuries and a
longer one, each of these is twenty-five cycles of four years, and each of those is three years and
a longer one.
-/

namespace ProseCheck.Date

/-! ### Eras -/

def daysBefore (yearOfEra : Int) : Int := 365 * yearOfEra + yearOfEra / 4 - yearOfEra / 100

/-- A day of an era, by its century, its cycle of four years there, the year of that and the day of
the year. -/
structure EraDay where
  century : Int
  cycle : Int
  year : Int
  day : Int

namespace EraDay

def yearOfEra (e : EraDay) : Int := 100 * e.century + 4 * e.cycle + e.year

def dayOfEra (e : EraDay) : Int := 36524 * e.century + 1461 * e.cycle + 365 * e.year + e.day

/-- The years that end with a leap day are the fourth ones, but at the end of a century only that of
the last. -/
structure IsValid (e : EraDay) : Prop where
  century : 0 ≤ e.century ∧ e.century ≤ 3
  cycle : 0 ≤ e.cycle ∧ e.cycle ≤ 24
  year : 0 ≤ e.year ∧ e.year ≤ 3
  day : 0 ≤ e.day ∧ e.day ≤ 365
  leap : e.day = 365 → e.year = 3 ∧ (e.cycle ≤ 23 ∨ e.century = 3)

variable {e : EraDay}

theorem exists_isValid {n : Int} (hlow : 0 ≤ n) (hhigh : n < eraDays) :
    ∃ e : EraDay, e.IsValid ∧ e.dayOfEra = n := by
  rw [eraDays] at hhigh
  let century := min (n / 36524) 3
  let rest := n - 36524 * century
  let cycle := rest / 1461
  let year := min ((rest - 1461 * cycle) / 365) 3
  refine ⟨⟨century, cycle, year, rest - 1461 * cycle - 365 * year⟩, ⟨?_, ?_, ?_, ?_, ?_⟩, ?_⟩
  all_goals
    simp only [dayOfEra]
    omega

theorem IsValid.daysBefore_add_day (h : e.IsValid) :
    daysBefore e.yearOfEra + e.day = e.dayOfEra := by
  obtain ⟨hcentury, hcycle, hyear, -, -⟩ := h
  simp only [daysBefore, yearOfEra, dayOfEra]
  omega

/-- The terms in the numerator take a leap day away for each cycle that is over, and give it back
for each century. -/
theorem IsValid.yearOfEra_eq (h : e.IsValid) :
    (e.dayOfEra - e.dayOfEra / 1460 + e.dayOfEra / 36524 - e.dayOfEra / 146096) / 365 =
      e.yearOfEra := by
  obtain ⟨hcentury, hcycle, hyear, hday, hleap⟩ := h
  simp only [dayOfEra, yearOfEra]
  generalize hn : 36524 * e.century + 1461 * e.cycle + 365 * e.year + e.day = n
  have hcycles : n / 1460 = 25 * e.century + e.cycle +
      if 24 * e.century + e.cycle + 365 * e.year + e.day < 1460 then 0 else 1 := by
    split <;> omega
  have hcenturies : n / 36524 = e.century + if n = 146096 then 1 else 0 := by
    split <;> omega
  have hlast : n / 146096 = if n = 146096 then 1 else 0 := by
    split <;> omega
  rw [hcycles, hcenturies, hlast]
  split <;> split <;> omega

end EraDay

/-! ### Dates -/

/-- The months from March on have thirty and a half days, five of them one hundred and
fifty-three. -/
def daysBeforeMonth (monthsSinceMarch : Int) : Int := (153 * monthsSinceMarch + 2) / 5

def ofEraDay (era : Int) (e : EraDay) : Date :=
  let monthsSinceMarch := (5 * e.day + 2) / 153
  let month := (monthsSinceMarch + 2) % 12 + 1
  let year := era * 400 + e.yearOfEra
  ⟨if month ≤ 2 then year + 1 else year, month.toNat,
    (e.day - daysBeforeMonth monthsSinceMarch + 1).toNat⟩

theorem exists_ofEraDay (days : Int) :
    ∃ (era : Int) (e : EraDay), e.IsValid ∧ days = era * eraDays + e.dayOfEra - epochDays ∧
      ofDays days = ofEraDay era e := by
  have hpos : 0 < eraDays := by decide
  obtain ⟨e, he, hday⟩ := EraDay.exists_isValid
    (Int.emod_nonneg (days + epochDays) (Int.ne_of_gt hpos)) (Int.emod_lt_of_pos _ hpos)
  refine ⟨(days + epochDays) / eraDays, e, he, ?_, ?_⟩
  · have := Int.mul_ediv_add_emod (days + epochDays) eraDays
    rw [Int.mul_comm] at this
    omega
  · have hyear := he.yearOfEra_eq
    have hdoy := he.daysBefore_add_day
    rw [daysBefore] at hdoy
    simp only [ofDays, ofEraDay, ← hday, hyear, daysBeforeMonth]
    have : e.dayOfEra - (365 * e.yearOfEra + e.yearOfEra / 4 - e.yearOfEra / 100) = e.day := by
      omega
    rw [this]

theorem ofEraDay_eq (era : Int) {e : EraDay} (he : e.IsValid) :
    ∃ (m : Int) (month day : Nat), (0 ≤ m ∧ m ≤ 11) ∧
      (month : Int) = (if m ≤ 9 then m + 3 else m - 9) ∧
      (day : Int) = e.day - daysBeforeMonth m + 1 ∧ 1 ≤ day ∧
      e.day < daysBeforeMonth (m + 1) ∧
      ofEraDay era e =
        ⟨if month ≤ 2 then era * 400 + e.yearOfEra + 1 else era * 400 + e.yearOfEra, month,
          day⟩ := by
  obtain ⟨hlow, hhigh⟩ := he.day
  refine ⟨(5 * e.day + 2) / 153, (((5 * e.day + 2) / 153 + 2) % 12 + 1).toNat,
    (e.day - daysBeforeMonth ((5 * e.day + 2) / 153) + 1).toNat, ?_, ?_, ?_, ?_, ?_, ?_⟩
  · omega
  · split <;> omega
  · simp only [daysBeforeMonth]
    omega
  · simp only [daysBeforeMonth]
    omega
  · simp only [daysBeforeMonth]
    omega
  · simp only [ofEraDay, mk.injEq, and_true]
    split <;> split <;> omega

theorem toDays_ofEraDay (era : Int) {e : EraDay} (he : e.IsValid) :
    toDays (ofEraDay era e) = era * eraDays + e.dayOfEra - epochDays := by
  obtain ⟨m, month, day, hm, hmonth, hday, -, -, hdate⟩ := ofEraDay_eq era he
  have hyear : 0 ≤ e.yearOfEra ∧ e.yearOfEra < 400 := by
    obtain ⟨hcentury, hcycle, hyear, -, -⟩ := he
    simp only [EraDay.yearOfEra]
    omega
  have hmarch : (if month ≤ 2 then
      (if month ≤ 2 then era * 400 + e.yearOfEra + 1 else era * 400 + e.yearOfEra) - 1
      else if month ≤ 2 then era * 400 + e.yearOfEra + 1 else era * 400 + e.yearOfEra) =
      era * 400 + e.yearOfEra := by
    split <;> omega
  have hmonths : ((month + 9) % 12 : Int) = m := by
    split at hmonth <;> omega
  have hbefore := he.daysBefore_add_day
  simp only [daysBefore] at hbefore
  simp only [daysBeforeMonth] at hday
  rw [hdate]
  simp only [toDays, hmarch, hmonths, hday]
  have hera : (era * 400 + e.yearOfEra) / 400 = era := by omega
  have hyearOfEra : (era * 400 + e.yearOfEra) % 400 = e.yearOfEra := by omega
  rw [hera, hyearOfEra, ← hbefore]
  omega

theorem toDays_ofDays (days : Int) : toDays (ofDays days) = days := by
  obtain ⟨era, e, he, hdays, hdate⟩ := exists_ofEraDay days
  rw [hdate, toDays_ofEraDay era he, hdays]

/-- Only a year with a leap day is that long, counted from March on. -/
theorem isLeap_of_day_eq (era : Int) {e : EraDay} (he : e.IsValid) (hday : e.day = 365) :
    isLeap (era * 400 + e.yearOfEra + 1) = true := by
  obtain ⟨hcentury, hcycle, -, -, hleap⟩ := he
  obtain ⟨hyear, hlast⟩ := hleap hday
  have hfour : (era * 400 + e.yearOfEra + 1) % 4 = 0 := by
    simp only [EraDay.yearOfEra]
    omega
  have hhundred : (era * 400 + e.yearOfEra + 1) % 100 ≠ 0 ∨
      (era * 400 + e.yearOfEra + 1) % 400 = 0 := by
    simp only [EraDay.yearOfEra]
    omega
  simpa [isLeap, hfour] using hhundred

theorem day_le_daysInMonth (year : Int) {m doy : Int} {month day : Nat} (hm : 0 ≤ m ∧ m ≤ 11)
    (hmonth : (month : Int) = if m ≤ 9 then m + 3 else m - 9)
    (hday : (day : Int) = doy - daysBeforeMonth m + 1) (hin : doy < daysBeforeMonth (m + 1))
    (hlast : doy ≤ 365) (hleap : doy = 365 → isLeap year = true) :
    day ≤ daysInMonth year month := by
  obtain ⟨hlow, hhigh⟩ := hm
  simp only [daysBeforeMonth] at hday hin
  obtain rfl | hmonths : m = 11 ∨ m ≤ 10 := by omega
  · obtain rfl : month = 2 := by omega
    cases hl : isLeap year with
    | true =>
      simp only [daysInMonth, hl, if_true]
      omega
    | false =>
      have hshort : doy ≠ 365 := fun h => Bool.noConfusion ((hleap h).symm.trans hl)
      simp only [daysInMonth, hl, Bool.false_eq_true, if_false]
      omega
  · interval_cases m <;> obtain rfl := Int.ofNat.inj hmonth <;> simp only [daysInMonth] <;> omega

theorem daysInMonth_le (year : Int) (month : Nat) : daysInMonth year month ≤ 31 := by
  unfold daysInMonth
  split
  · split <;> decide
  all_goals decide

theorem isValid_ofDays {days : Int} (hfirst : firstYear ≤ (ofDays days).year)
    (hlast : (ofDays days).year ≤ lastYear) : (ofDays days).isValid = true := by
  obtain ⟨era, e, he, -, hdate⟩ := exists_ofEraDay days
  obtain ⟨m, month, day, hm, hmonth, hday, hpos, hin, hdate'⟩ := ofEraDay_eq era he
  rw [hdate, hdate'] at hfirst hlast ⊢
  have hmonth' : 1 ≤ month ∧ month ≤ 12 := by
    split at hmonth <;> omega
  have hdays := day_le_daysInMonth
    (if month ≤ 2 then era * 400 + e.yearOfEra + 1 else era * 400 + e.yearOfEra) hm hmonth hday hin
    he.day.2 (fun h => by
      have hfeb : month ≤ 2 := by
        rw [h] at hin
        simp only [daysBeforeMonth] at hin
        split at hmonth <;> omega
      rw [if_pos hfeb]
      exact isLeap_of_day_eq era he h)
  simp [isValid, hfirst, hlast, hmonth', hpos, hdays]

end ProseCheck.Date
