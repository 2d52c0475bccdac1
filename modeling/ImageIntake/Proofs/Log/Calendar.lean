/-
  ImageIntake.Proofs.Log.Calendar

  The moments that have a date.  The year of a day is the one it falls into
  (`yearOf_spec`), so that the calendar has exactly the days from the start of the year
  1 to the end of the year 9999 (`dateFault?_eq_none_iff`), and every moment that an
  archive can note is one of these.
-/

import ImageIntake.Log.Retention

namespace ImageIntake.Log

open ImageIntake.Number

theorem yearOf_spec (day : Int) :
    daysBefore (yearOf day) ≤ day ∧ day < daysBefore (yearOf day + 1) := by
  unfold yearOf daysBefore
  dsimp only
  split
  · omega
  · split <;> omega

/-- The days before the year 10000. -/
def calendarDays : Int := 3652059

theorem yearOf_mem_iff (day : Int) :
    1 ≤ yearOf day ∧ yearOf day ≤ lastYear ↔ 0 ≤ day ∧ day < calendarDays := by
  have h_last : lastYear = 9999 := rfl
  have h_days : calendarDays = 3652059 := rfl
  have h_spec := yearOf_spec day
  unfold daysBefore at h_spec
  dsimp only at h_spec
  constructor <;> intro h_range <;> omega

theorem dateFault?_eq_none_iff (moment : Int) :
    dateFault? moment = none ↔ 0 ≤ dayOf moment ∧ dayOf moment < calendarDays := by
  have h_word : twoTo 31 = 2147483648 := rfl
  have h_last : lastYear = 9999 := rfl
  rw [← yearOf_mem_iff]
  unfold dateFault?
  dsimp only
  split
  next h_far => exact iff_of_false nofun (by omega)
  next h_near =>
    split
    next h_out => exact iff_of_false nofun (by omega)
    next h_in => exact iff_of_true rfl (by omega)

/-- What an archive can note as its own moment has a date. -/
theorem dateFault?_of_packFault? {moment : Int} (h : packFault? moment = none) :
    dateFault? moment = none := by
  have h_word : twoTo 32 = 4294967296 := rfl
  have h_days : calendarDays = 3652059 := rfl
  have h_epoch : daysBefore 1970 * daySeconds * secondMicros = 62135596800000000 := by decide
  have h_micros : secondMicros = 1000000 := rfl
  have h_day : daySeconds * secondMicros = 86400000000 := rfl
  -- A part of a second is cut off towards the start of the year 1970.
  have h_cut (n : Int) : 0 ≤ n ∧ n.tdiv 1000000 = n / 1000000 ∨
      n < 0 ∧ n.tdiv 1000000 = -(-n / 1000000) := by
    rcases Int.lt_or_le n 0 with h_neg | h_pos
    · have h_pos : 0 ≤ -n := by omega
      refine .inr ⟨h_neg, ?_⟩
      rw [← Int.tdiv_eq_ediv_of_nonneg h_pos, Int.neg_tdiv, Int.neg_neg]
    · exact .inl ⟨h_pos, Int.tdiv_eq_ediv_of_nonneg h_pos⟩
  have h_seconds := h_cut (moment - 62135596800000000)
  unfold packFault? at h
  dsimp only at h
  rw [h_epoch, h_micros] at h
  rw [dateFault?_eq_none_iff, dayOf, h_day]
  split at h
  next => cases h
  next h_after =>
    split at h
    next => cases h
    next h_before => omega

end ImageIntake.Log
