import HotelBooking.Proofs.Nights
import HotelBooking.Proofs.ReservationLife

/-!
# Until when a reservation can be cancelled

A reservation can be cancelled until 24 hours before check-in, while its status allows it. Once that is over, it stays
over: no call brings the status back, and time does not go back either (`Reservation.window`). Two midnights before
check-in there is still time, and on the day itself it is too late.

The time that is left is 24 hours for each midnight and what is between the two times of day, so a leap second counts
in some of it only. In the one that ends a day it can be too late, and after that early enough again
(`Reservation.window_reopened`); `Instant.CutsShort` says just when.
-/

namespace HotelBooking

namespace Instant

variable {s t u : Instant}

/-- Time passes from one time of day to the other, or none does. -/
theorem timeTo_nonneg_iff : 0 ≤ s.timeTo t ↔
    s.secondOfDay < t.secondOfDay ∨ s.secondOfDay = t.secondOfDay ∧ s.nano ≤ t.nano := by
  have hs := s.nano_lt
  have ht := t.nano_lt
  unfold timeTo
  split_ifs <;> simp only [isLeap_iff, nanosPerSecond] at * <;> omega

theorem le_iff_day : s ≤ t ↔ s.day < t.day ∨ s.day = t.day ∧ 0 ≤ s.timeTo t := by
  rw [timeTo_nonneg_iff, le_iff]
  simp only [day, secondOfDay, secondsPerDay]
  omega

theorem timeTo_nonneg_trans (hst : 0 ≤ s.timeTo t) (htu : 0 ≤ t.timeTo u) : 0 ≤ s.timeTo u := by
  rw [timeTo_nonneg_iff] at *
  omega

/-- The end of a day comes after all else of it. -/
theorem timeTo_nonneg_of_endsDay (ht : t.EndsDay) (hs : ¬ s.EndsDay) : 0 ≤ s.timeTo t := by
  have hlast := s.secondOfDay_lt
  rw [timeTo_nonneg_iff]
  simp only [EndsDay, isLeap_iff] at *
  omega

theorem SpansDay.of_le (h : t.SpansDay u) (hst : 0 ≤ s.timeTo t) : s.SpansDay u := by
  rw [timeTo_nonneg_iff] at hst
  obtain ⟨hfirst, hends, hnano⟩ := h
  exact ⟨by omega, hends, by omega⟩

/-- A day or more passes if enough midnights do. Where they alone do not tell, the times of day decide. -/
theorem nanosPerDay_le_nanosTo_iff : nanosPerDay ≤ s.nanosTo t ↔
    3 ≤ s.daysTo t ∨ s.daysTo t = 2 ∧ t.timeTo s ≤ nanosPerDay ∨ s.daysTo t = 1 ∧ 0 ≤ s.timeTo t ∨
      s.daysTo t = 0 ∧ s.SpansDay t := by
  have hforth := timeTo_lt s t
  have hback := timeTo_lt t s
  have hopposite := timeTo_eq_neg s t
  rw [← nanosPerDay_le_timeTo_iff, nanosTo]
  simp only [nanosPerDay, nanosPerSecond] at *
  omega

/-- More than a day passes from the time of day of `s` to that of `t`. -/
def ExceedsDay (s t : Instant) : Prop := s.secondOfDay = 0 ∧ t.EndsDay ∧ s.nano + nanosPerSecond < t.nano

theorem timeTo_le_iff : s.timeTo t ≤ nanosPerDay ↔ ¬ s.ExceedsDay t := by
  have hiff := nanosPerDay_add_le_timeTo_iff (s := s) (t := t) Int.one_nonneg
  rw [ExceedsDay, ← Int.not_lt, not_iff_not]
  simpa only [Int.add_one_le_iff, ← Int.natCast_add, Int.ofNat_lt] using hiff

/-- `s` lies in the leap second that ends its day, and less than a day passes from there to `t`, though a day or more
does from the midnight after `s`: `t` lies in the first second of the second day after, or less far than `s` in the leap
second that ends the next day. -/
def CutsShort (s t : Instant) : Prop :=
  s.daysTo t = 2 ∧ t.ExceedsDay s ∨ s.daysTo t = 1 ∧ s.EndsDay ∧ t.EndsDay ∧ t.nano < s.nano

theorem timeTo_nonneg_of_not_cutsShort (hone : s.daysTo u = 1) (hends : u.EndsDay) (hs : ¬ s.CutsShort u) :
    0 ≤ s.timeTo u := by
  by_contra hback
  have hends' : s.EndsDay := by_contra fun hs' => hback (timeTo_nonneg_of_endsDay hends hs')
  have hsame : s.secondOfDay = u.secondOfDay := hends'.2.trans hends.2.symm
  rw [timeTo_nonneg_iff] at hback
  exact hs (.inr ⟨hone, hends', hends, by omega⟩)

/-- If a day or more passes from an instant on, it does from an earlier one. -/
theorem nanosPerDay_le_nanosTo_of_le (hst : s ≤ t) (hs : ¬ s.CutsShort u) (h : nanosPerDay ≤ t.nanosTo u) :
    nanosPerDay ≤ s.nanosTo u := by
  rw [le_iff_day] at hst
  rw [nanosPerDay_le_nanosTo_iff] at h ⊢
  by_cases hmidnights : 2 ≤ s.daysTo u
  · rcases Int.lt_or_eq_of_le hmidnights with hmore | htwo
    · exact .inl hmore
    · have hback : u.timeTo s ≤ nanosPerDay := timeTo_le_iff.mpr fun hexceeds => hs (.inl ⟨htwo.symm, hexceeds⟩)
      exact .inr (.inl ⟨htwo.symm, hback⟩)
  -- With at most one midnight left, either there is none after `t`, or `t` is later on the day of `s`.
  rcases hst with hday | ⟨hday, htime⟩
  · rcases h with h | ⟨h, -⟩ | ⟨h, -⟩ | ⟨h, -, hends, -⟩ <;> simp only [daysTo] at *
    · omega
    · omega
    · omega
    · have hone : s.daysTo u = 1 := by
        rw [daysTo]
        omega
      exact .inr (.inr (.inl ⟨hone, timeTo_nonneg_of_not_cutsShort hone hends hs⟩))
  · rw [show t.daysTo u = s.daysTo u by rw [daysTo, daysTo, hday]] at h
    rcases h with h | ⟨h, -⟩ | ⟨h, hu⟩ | ⟨h, hspans⟩
    · omega
    · omega
    · exact .inr (.inr (.inl ⟨h, timeTo_nonneg_trans htime hu⟩))
    · exact .inr (.inr (.inr ⟨h, hspans.of_le htime⟩))

theorem exists_next_midnight (h : s.day < u.day) :
    ∃ t : Instant, t.day = s.day + 1 ∧ t.secondOfDay = 0 ∧ t.nano = 0 := by
  have hfirst := s.first_le
  have hlast := u.le_last
  simp only [day, secondsPerDay] at h
  refine ⟨⟨(s.day + 1) * secondsPerDay, 0, ?_, ?_, by decide, fun hleap => absurd hleap (by decide)⟩, ?_, ?_, rfl⟩ <;>
    simp only [day, secondOfDay, secondsPerDay, firstSecond, lastSecond] at * <;> omega

theorem CutsShort.nanosTo_lt (h : s.CutsShort u) : s.nanosTo u < nanosPerDay := by
  rw [← Int.not_le, nanosPerDay_le_nanosTo_iff, timeTo_le_iff, timeTo_nonneg_iff]
  rcases h with ⟨htwo, hexceeds⟩ | ⟨hone, hs, hu, hnano⟩
  · rintro (h | ⟨-, h⟩ | ⟨h, -⟩ | ⟨h, -⟩)
    · omega
    · exact h hexceeds
    · omega
    · omega
  · have hsame : s.secondOfDay = u.secondOfDay := hs.2.trans hu.2.symm
    omega

theorem CutsShort.day_lt (h : s.CutsShort u) : s.day < u.day := by
  rcases h with ⟨hdays, -⟩ | ⟨hdays, -⟩ <;> rw [daysTo] at hdays <;> omega

/-- From the midnight after `s`, a day or more passes. -/
theorem CutsShort.exists_nanosPerDay_le (h : s.CutsShort u) : ∃ t, s ≤ t ∧ nanosPerDay ≤ t.nanosTo u := by
  obtain ⟨t, htday, htsecond, htnano⟩ := exists_next_midnight h.day_lt
  have hdays : t.daysTo u = s.daysTo u - 1 := by
    rw [daysTo, daysTo]
    omega
  refine ⟨t, le_iff_day.mpr (.inl (by omega)), ?_⟩
  rw [nanosPerDay_le_nanosTo_iff, timeTo_nonneg_iff, hdays]
  rcases h with ⟨htwo, hfirst, -⟩ | ⟨hone, -, hu, -⟩
  · exact .inr (.inr (.inl ⟨by omega, by omega⟩))
  · have hleap := isLeap_iff.mp hu.1
    exact .inr (.inr (.inr ⟨by omega, htsecond, hu, by omega⟩))

end Instant

namespace ReservationStatus

/-- No status that can still be cancelled comes after one that cannot. -/
theorem isCancellable_of_leadsTo {s t : ReservationStatus} (h : s.leadsTo t = true) (ht : t.isCancellable = true) :
    s.isCancellable = true := by
  cases s <;> cases t <;> first | rfl | contradiction

end ReservationStatus

namespace Reservation

variable {r : Reservation} {t u : Instant}

theorem isCancellableAt_iff : r.isCancellableAt t = true ↔
    r.status.isCancellable = true ∧ Instant.nanosPerDay ≤ t.nanosTo r.stay.checkIn := by
  rw [isCancellableAt, Bool.and_eq_true, decide_eq_true_iff]
  exact Iff.rfl

theorem becomes_afterCall (r : Reservation) (call : Instant × ReservationCall) : r.Becomes (r.afterCall call) := by
  obtain ⟨t, c⟩ := call
  rw [afterCall]
  cases hperform : c.perform t r with
  | error e => exact .refl r
  | ok r' =>
      cases c with
      | change c => exact .of_change hperform
      | cancel reason => exact .of_cancel hperform

theorem becomes_afterCalls (r : Reservation) (calls : List (Instant × ReservationCall)) :
    r.Becomes (r.afterCalls calls) := by
  induction calls generalizing r with
  | nil => exact .refl r
  | cons call calls ih => exact (r.becomes_afterCall call).trans (ih (r.afterCall call))

/-- What it becomes can be cancelled no longer than the reservation itself. -/
theorem Becomes.isCancellableAt {r' : Reservation} (h : r.Becomes r') (htu : t ≤ u)
    (ht : ¬ (r.status.isCancellable = true ∧ t.CutsShort r.stay.checkIn)) (hu : r'.isCancellableAt u = true) :
    r.isCancellableAt t = true := by
  rw [isCancellableAt_iff] at hu ⊢
  rw [h.stay] at hu
  have hstatus : r.status.isCancellable = true := ReservationStatus.isCancellable_of_leadsTo h.status hu.1
  exact ⟨hstatus, Instant.nanosPerDay_le_nanosTo_of_le htu (fun hcuts => ht ⟨hstatus, hcuts⟩) hu.2⟩

/-- Where it is too late only because of a leap second, it is not once that is over. -/
theorem reopens_of_cutsShort (hstatus : r.status.isCancellable = true) (ht : t.CutsShort r.stay.checkIn) :
    r.isCancellableAt t = false ∧ ∃ u, t ≤ u ∧ r.isCancellableAt u = true := by
  obtain ⟨u, htu, hlong⟩ := ht.exists_nanosPerDay_le
  refine ⟨?_, u, htu, isCancellableAt_iff.mpr ⟨hstatus, hlong⟩⟩
  rw [Bool.eq_false_iff, Ne, isCancellableAt_iff, ← Int.not_lt]
  exact fun h => h.2 ht.nanosTo_lt

theorem daysUntilCheckIn_of_isCancellableAt (h : r.isCancellableAt t = true) :
    1 ≤ r.daysUntilCheckIn t ∨ r.daysUntilCheckIn t = 0 ∧ t.SpansDay r.stay.checkIn := by
  obtain ⟨-, hlong⟩ := isCancellableAt_iff.mp h
  rw [daysUntilCheckIn]
  rcases Instant.nanosPerDay_le_nanosTo_iff.mp hlong with h | ⟨h, -⟩ | ⟨h, -⟩ | hspans
  · exact .inl (by omega)
  · exact .inl (by omega)
  · exact .inl (by omega)
  · exact .inr hspans

theorem isCancellableAt_of_daysUntilCheckIn (hstatus : r.status.isCancellable = true)
    (hdays : 2 ≤ r.daysUntilCheckIn t) :
    r.isCancellableAt t = true ∨ r.daysUntilCheckIn t = 2 ∧ r.stay.checkIn.ExceedsDay t := by
  rw [isCancellableAt_iff, Instant.nanosPerDay_le_nanosTo_iff, Instant.timeTo_le_iff]
  rw [daysUntilCheckIn] at *
  rcases Int.lt_or_eq_of_le hdays with hmore | htwo
  · exact .inl ⟨hstatus, .inl hmore⟩
  · by_cases hexceeds : r.stay.checkIn.ExceedsDay t
    · exact .inr ⟨htwo.symm, hexceeds⟩
    · exact .inl ⟨hstatus, .inr (.inl ⟨htwo.symm, hexceeds⟩)⟩

/-- When a reservation can be cancelled, by the hours and by the days that are left. Once it cannot be, it never can
again, whatever it is called for, but for a leap second that cuts the time short: after that it can be again. -/
structure Window (r : Reservation) : Prop where
  cancel_iff : ∀ t reason, (∃ r', r.cancel t reason = .ok r') ↔ r.isCancellableAt t = true
  stays_closed : ∀ t u calls, t ≤ u → ¬ (r.status.isCancellable = true ∧ t.CutsShort r.stay.checkIn) →
    r.isCancellableAt t = false → (r.afterCalls calls).isCancellableAt u = false
  reopens : r.status.isCancellable = true → ∀ t, t.CutsShort r.stay.checkIn →
    r.isCancellableAt t = false ∧ ∃ u, t ≤ u ∧ r.isCancellableAt u = true
  days_left : ∀ t, r.isCancellableAt t = true →
    1 ≤ r.daysUntilCheckIn t ∨ r.daysUntilCheckIn t = 0 ∧ t.SpansDay r.stay.checkIn
  cancellable : r.status.isCancellable = true → ∀ t, 2 ≤ r.daysUntilCheckIn t →
    r.isCancellableAt t = true ∨ r.daysUntilCheckIn t = 2 ∧ r.stay.checkIn.ExceedsDay t

theorem window (r : Reservation) : r.Window where
  cancel_iff := by
    intro t reason
    simp only [cancel_eq_ok_iff, exists_and_left, exists_eq, and_true]
  stays_closed := by
    intro t u calls htu ht hclosed
    by_contra hopen
    rw [(r.becomes_afterCalls calls).isCancellableAt htu ht (Bool.eq_true_of_not_eq_false hopen)] at hclosed
    contradiction
  reopens hstatus _ := reopens_of_cutsShort hstatus
  days_left _ := daysUntilCheckIn_of_isCancellableAt
  cancellable hstatus _ := isCancellableAt_of_daysUntilCheckIn hstatus

open Sample

/-- Check-in is on the third day. -/
theorem window_of_third_day :
    (fresh (day 1) (order "res-1" 3 5)).isCancellableAt (day 2) = true ∧
      ∀ calls, ((fresh (day 1) (order "res-1" 3 5)).afterCalls calls).isCancellableAt (day 4) = false := by
  have hclock : ¬ (day 3).EndsDay := Instant.not_endsDay_of_not_isLeap (by decide +kernel)
  have hcuts : ¬ (day 3).CutsShort (fresh (day 1) (order "res-1" 3 5)).stay.checkIn := by
    rintro (⟨-, -, hends, -⟩ | ⟨-, hends, -⟩)
    · exact hclock hends
    · exact hclock hends
  exact ⟨by decide +kernel, fun calls =>
    (window (fresh (day 1) (order "res-1" 3 5))).stays_closed (day 3) (day 4) calls (by decide +kernel)
      (fun h => hcuts h.2) (by decide +kernel)⟩

/-- On the day of check-in it is not too late if check-in is in the leap second at the end. Two days before it is, in
such a second, but after that it is not. -/
theorem window_reopened :
    (∃ r, make (day 1) (stayOrder ⟨leapSecond 4 0, day 6⟩) = .ok r ∧
      r.isCancellableAt (day 3) = true ∧ r.daysUntilCheckIn (day 3) = 0) ∧
    ∃ r, make (day 1) (stayOrder ⟨day 5, day 6⟩) = .ok r ∧
      r.isCancellableAt (leapSecond 4 500000000) = false ∧ r.daysUntilCheckIn (leapSecond 4 500000000) = 2 ∧
      leapSecond 4 500000000 ≤ day 4 ∧ r.isCancellableAt (day 4) = true :=
  ⟨⟨fresh (day 1) (stayOrder ⟨leapSecond 4 0, day 6⟩), by decide +kernel⟩,
    ⟨fresh (day 1) (stayOrder ⟨day 5, day 6⟩), by decide +kernel⟩⟩

end Reservation
end HotelBooking
