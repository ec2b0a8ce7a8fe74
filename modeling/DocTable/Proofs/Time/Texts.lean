import DocTable.Proofs.Number.Digits
import DocTable.Proofs.Time.Calendar
import DocTable.Time.Instant

/-!
# Texts of instants

No two points in time have the same text, in any year. Behind the year all fields have fixed widths,
so a text is taken apart from its end; what is left is the year, which has a sign in front exactly
if it is not one of the years 0 to 9999.
-/

namespace DocTable.TimeText

/-! ## Years -/

theorem year_of_plain {y : Int} (plain : 0 ≤ y ∧ y ≤ 9999) :
    year y = Digits.padded 4 y.natAbs := by
  simp [year, plain]

theorem year_of_signed {y : Int} (signed : ¬ (0 ≤ y ∧ y ≤ 9999)) :
    year y = (if y < 0 then '-' else '+') :: Digits.padded 4 y.natAbs := by
  simp [year, signed]

theorem padded_ne_signed (y : Int) (n : Nat) (digits : List Char) :
    Digits.padded 4 n ≠ (if y < 0 then '-' else '+') :: digits := by
  intro same
  have first : (if y < 0 then '-' else '+') ∈ Digits.padded 4 n := same ▸ List.mem_cons_self
  have digit := Digits.isDigit_of_mem_padded first
  split at digit <;> cases digit

theorem year_injective : Function.Injective year := by
  intro y z same
  by_cases plainY : 0 ≤ y ∧ y ≤ 9999
  · by_cases plainZ : 0 ≤ z ∧ z ≤ 9999
    · rw [year_of_plain plainY, year_of_plain plainZ] at same
      have magnitudes := Digits.padded_injective 4 same
      omega
    · rw [year_of_plain plainY, year_of_signed plainZ] at same
      exact absurd same (padded_ne_signed z _ _)
  · by_cases plainZ : 0 ≤ z ∧ z ≤ 9999
    · rw [year_of_signed plainY, year_of_plain plainZ] at same
      exact absurd same.symm (padded_ne_signed y _ _)
    · rw [year_of_signed plainY, year_of_signed plainZ] at same
      obtain ⟨signs, digits⟩ := List.cons.inj same
      have magnitudes := Digits.padded_injective 4 digits
      have agree : y < 0 ↔ z < 0 := by
        by_cases early : y < 0 <;> by_cases late : z < 0 <;> simp [early, late] at signs ⊢
      omega

/-! ## Dates and clocks -/

variable {d e : Date}

theorem date_inj (md : d.month ≤ 12) (me : e.month ≤ 12) (dd : d.day ≤ 31) (de : e.day ≤ 31)
    (same : date d = date e) : d = e := by
  rw [date, date] at same
  obtain ⟨same, days⟩ := Digits.eq_of_append_padded (by decide) (by omega) (by omega) same
  obtain ⟨same, months⟩ := Digits.eq_of_append_padded (by decide) (by omega) (by omega) same
  have years := year_injective same
  cases d
  cases e
  simp_all

theorem date_ofDays_injective : Function.Injective fun days => date (Date.ofDays days) := by
  intro a b same
  exact Date.ofDays_injective (date_inj (Date.month_ofDays_le a) (Date.month_ofDays_le b)
    (Date.day_ofDays_le a) (Date.day_ofDays_le b) same)

theorem render_fixed_injective : Function.Injective (render .fixed) := by
  intro a b same
  simp only [render, fraction, millisPerDay] at same
  have same := List.append_cancel_right same
  obtain ⟨same, millis⟩ := Digits.eq_of_append_padded (by decide) (by omega) (by omega) same
  obtain ⟨same, seconds⟩ := Digits.eq_of_append_padded (by decide) (by omega) (by omega) same
  obtain ⟨same, minutes⟩ := Digits.eq_of_append_padded (by decide) (by omega) (by omega) same
  obtain ⟨same, hours⟩ := Digits.eq_of_append_padded (by decide) (by omega) (by omega) same
  have days := date_ofDays_injective same
  have clocks : (a % 86400000).toNat = (b % 86400000).toNat := by omega
  omega

end DocTable.TimeText
