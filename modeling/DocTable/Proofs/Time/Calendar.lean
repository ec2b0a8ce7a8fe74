import DocTable.Time.Date
import Mathlib.Logic.Function.Basic

/-!
# The calendar in both directions

`Date.ofDays` finds the year of a day within an era by a division that makes up for the leap days
before it. The year is right for every day of an era, `Date.exists_dayOfYear`, so the days are
counted back from every date, `Date.toDays_ofDays`, and no date stands for two days.
-/

namespace DocTable.Date

/-! ## Years of an era -/

/-- The year of a day, both counted from the start of an era. -/
def yearOfEra (day : Nat) : Nat := (day - day / 1460 + day / 36524 - day / 146096) / 365

def daysBefore (year : Nat) : Nat := 365 * year + year / 4 - year / 100

variable {century span year day : Nat}

/-- A century has spans of four years, and the last day of a span is the leap day, if it has one. -/
theorem yearOfEra_split (hc : century ≤ 3) (hs : 1461 * span + (365 * year + day) < 36524)
    (hy : year ≤ 3) (hd : day < 365 ∨ year = 3 ∧ day = 365) :
    yearOfEra (36524 * century + (1461 * span + (365 * year + day))) =
      100 * century + 4 * span + year := by
  have spans_le : span ≤ 24 := by omega
  unfold yearOfEra
  generalize whole : 36524 * century + (1461 * span + (365 * year + day)) = n
  have eras : n / 146096 = 0 := by omega
  have centuries : n / 36524 = century := by omega
  -- the quotient is too high by one only late in the last year of a span, which has a day to spare
  have spans : n / 1460 = 25 * century + span ∨
      n / 1460 = 25 * century + span + 1 ∧ 1460 ≤ 24 * century + span + (365 * year + day) := by
    omega
  rw [eras, centuries]
  rcases spans with exact | ⟨early, late⟩
  · rw [exact]
    have days : n - (25 * century + span) + century - 0 =
        365 * (100 * century + 4 * span + year) + day := by
      omega
    omega
  · rw [early]
    have days : n - (25 * century + span + 1) + century - 0 =
        365 * (100 * century + 4 * span + year) + day - 1 := by
      omega
    omega

theorem daysBefore_split (hs : span ≤ 24) (hy : year ≤ 3) :
    daysBefore (100 * century + 4 * span + year) = 36524 * century + 1461 * span + 365 * year := by
  have quarters : (100 * century + 4 * span + year) / 4 = 25 * century + span := by omega
  have hundredths : (100 * century + 4 * span + year) / 100 = century := by omega
  rw [daysBefore, quarters, hundredths]
  omega

theorem exists_split (day : Nat) :
    ∃ span year rest, day = 1461 * span + (365 * year + rest) ∧ year ≤ 3 ∧
      (rest < 365 ∨ year = 3 ∧ rest = 365) := by
  by_cases leap : day % 1461 = 1460
  · exact ⟨day / 1461, 3, 365, by omega, by omega, by omega⟩
  · exact ⟨day / 1461, day % 1461 / 365, day % 1461 % 365, by omega, by omega, by omega⟩

theorem exists_dayOfYear (inside : day < 146097) :
    ∃ rest ≤ 365, day = daysBefore (yearOfEra day) + rest ∧ yearOfEra day < 400 := by
  by_cases last : day = 146096
  · subst last
    exact ⟨365, Nat.le_refl _, rfl, by decide⟩
  · have centuries : day / 36524 ≤ 3 := by omega
    obtain ⟨span, year, rest, split, years, days⟩ := exists_split (day % 36524)
    have short : 1461 * span + (365 * year + rest) < 36524 := by omega
    have spans : span ≤ 24 := by omega
    have found := yearOfEra_split centuries short years days
    rw [← split, Nat.div_add_mod] at found
    refine ⟨rest, by omega, ?_, by omega⟩
    rw [found, daysBefore_split spans years]
    omega

/-! ## Days of a year -/

/-- The date so many days after the first of March of a year. -/
def ofMarch (year : Int) (day : Nat) : Date :=
  let marchMonth := (5 * day + 2) / 153
  let month := if marchMonth < 10 then marchMonth + 3 else marchMonth - 9
  { year := year + if month ≤ 2 then 1 else 0
    month
    day := day - (153 * marchMonth + 2) / 5 + 1 }

theorem month_ofMarch_le (year : Int) (inside : day ≤ 365) : (ofMarch year day).month ≤ 12 := by
  have months : (5 * day + 2) / 153 ≤ 11 := by omega
  show (if (5 * day + 2) / 153 < 10 then _ else _) ≤ 12
  split <;> omega

theorem day_ofMarch_le (year : Int) (day : Nat) : (ofMarch year day).day ≤ 31 := by
  show day - (153 * ((5 * day + 2) / 153) + 2) / 5 + 1 ≤ 31
  omega

theorem natCast_daysBefore (year : Nat) :
    (daysBefore year : Int) = (year : Int) * 365 + year / 4 - year / 100 := by
  have hundredths : year / 100 ≤ year / 4 := by omega
  unfold daysBefore
  omega

theorem toDays_ofMarch (year : Int) (inside : day ≤ 365) :
    (ofMarch year day).toDays =
      year / 400 * daysPerEra + (daysBefore (year % 400).toNat + day) - epochOffset := by
  obtain ⟨marchMonth, months⟩ : ∃ month, (5 * day + 2) / 153 = month := ⟨_, rfl⟩
  have starts : (153 * (marchMonth : Int) + 2) / 5 +
      (day - (153 * marchMonth + 2) / 5 + 1 : Nat) - 1 = day := by
    omega
  have yearOfEra : ((year % 400).toNat : Int) = year % 400 := by omega
  rw [natCast_daysBefore, yearOfEra, ← starts]
  simp only [toDays, ofMarch, months]
  by_cases early : marchMonth < 10
  · have march : ¬ marchMonth + 3 ≤ 2 := by omega
    have back : 2 < marchMonth + 3 := by omega
    have month : ((marchMonth + 3 : Nat) : Int) - 3 = marchMonth := by omega
    simp only [early, march, back, if_true, if_false, month, Int.add_zero]
  · have new : marchMonth - 9 ≤ 2 := by omega
    have back : ¬ 2 < marchMonth - 9 := by omega
    have month : ((marchMonth - 9 : Nat) : Int) + 9 = marchMonth := by omega
    simp only [early, new, back, if_true, if_false, month, Int.add_sub_cancel]

/-! ## All days -/

theorem ofDays_eq_ofMarch (days : Int) :
    ∃ (era : Int) (year rest : Nat), year < 400 ∧ rest ≤ 365 ∧
      days = era * daysPerEra + (daysBefore year + rest) - epochOffset ∧
      ofDays days = ofMarch (era * 400 + year) rest := by
  have inside : ((days + epochOffset) % daysPerEra).toNat < 146097 := by
    unfold daysPerEra
    omega
  obtain ⟨rest, rest_le, split, year_lt⟩ := exists_dayOfYear inside
  refine ⟨(days + epochOffset) / daysPerEra, _, rest, year_lt, rest_le, ?_, ?_⟩
  · unfold daysPerEra at *
    omega
  · have remainder : ((days + epochOffset) % daysPerEra).toNat -
        daysBefore (yearOfEra ((days + epochOffset) % daysPerEra).toNat) = rest := by
      omega
    rw [← remainder]
    rfl

theorem toDays_ofDays (days : Int) : (ofDays days).toDays = days := by
  obtain ⟨era, year, rest, year_lt, rest_le, split, date⟩ := ofDays_eq_ofMarch days
  have eras : (era * 400 + year) / 400 = era := by omega
  have years : ((era * 400 + year) % 400).toNat = year := by omega
  rw [date, toDays_ofMarch _ rest_le, eras, years]
  exact split.symm

theorem ofDays_injective : Function.Injective ofDays :=
  Function.LeftInverse.injective toDays_ofDays

theorem month_ofDays_le (days : Int) : (ofDays days).month ≤ 12 := by
  obtain ⟨era, year, rest, -, rest_le, -, date⟩ := ofDays_eq_ofMarch days
  rw [date]
  exact month_ofMarch_le _ rest_le

theorem day_ofDays_le (days : Int) : (ofDays days).day ≤ 31 := by
  obtain ⟨era, year, rest, -, rest_le, -, date⟩ := ofDays_eq_ofMarch days
  rw [date]
  exact day_ofMarch_le _ rest

end DocTable.Date
