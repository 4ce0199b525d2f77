import HotelBooking.Proofs.Reservations

/-!
# Nights and hours

Whether a stay is long enough is a matter of the time that passes, and its nights are the midnights that do. A stay of
`n` nights is longer than `n - 1` days and shorter than `n + 1`, so there is a night in each stay that is accepted
(`Reservation.acceptance`). Only the leap second at the end of a day is an exception: from the first second of a day
to that one a whole day passes, and no midnight (`Reservation.sleepless_accepted`).
-/

namespace HotelBooking

namespace Instant

variable {s t : Instant}

theorem isLeap_iff : t.isLeap = true ↔ nanosPerSecond ≤ t.nano := decide_eq_true_iff

theorem secondOfDay_lt (t : Instant) : t.secondOfDay < 86400 := by
  simp only [secondOfDay, secondsPerDay]
  omega

/-- A leap second is the last one of its minute. -/
theorem le_secondOfDay_of_isLeap (h : t.isLeap = true) : 59 ≤ t.secondOfDay := by
  have hends := t.minute_ends (isLeap_iff.mp h)
  simp only [secondOfDay, secondsPerDay]
  omega

/-- The instant lies in the leap second that ends its day. -/
def EndsDay (t : Instant) : Prop := t.isLeap = true ∧ t.secondOfDay = 86399

/-- A day or more passes from the time of day of `s` to that of `t`: `s` lies in the first second of its day, and `t`
no less far in the leap second that ends its own. -/
def SpansDay (s t : Instant) : Prop := s.secondOfDay = 0 ∧ t.EndsDay ∧ s.nano + nanosPerSecond ≤ t.nano

theorem not_endsDay_of_not_isLeap (h : t.isLeap = false) : ¬ t.EndsDay := by
  rintro ⟨hleap, -⟩
  rw [h] at hleap
  contradiction

theorem timeTo_cases (s t : Instant) :
    ∃ leapSeconds : Int, s.timeTo t =
        (t.secondOfDay - s.secondOfDay + leapSeconds) * nanosPerSecond + (t.nano - s.nano) ∧
      (leapSeconds = 1 ∧ s.isLeap = true ∧ s.secondOfDay < t.secondOfDay ∨
        leapSeconds = -1 ∧ t.isLeap = true ∧ t.secondOfDay < s.secondOfDay ∨ leapSeconds = 0) := by
  unfold timeTo
  refine ⟨_, rfl, ?_⟩
  split_ifs with hs ht
  · exact .inl ⟨rfl, hs⟩
  · exact .inr (.inl ⟨rfl, ht⟩)
  · exact .inr (.inr rfl)

/-- A leap second that is counted on the way there is not counted on the way back. -/
theorem timeTo_eq_neg (s t : Instant) : s.timeTo t = -t.timeTo s := by
  unfold timeTo
  split_ifs <;> simp only [nanosPerSecond] <;> omega

theorem nanosPerDay_add_le_timeTo_iff {n : Int} (hn : 0 ≤ n) : nanosPerDay + n ≤ s.timeTo t ↔
    s.secondOfDay = 0 ∧ t.EndsDay ∧ s.nano + nanosPerSecond + n ≤ t.nano := by
  have hs := s.nano_lt
  have ht := t.nano_lt
  have hlast := t.secondOfDay_lt
  obtain ⟨leapSeconds, htime, hleap⟩ := timeTo_cases s t
  rw [htime]
  -- With a leap second in between, the two times of day do not come near both ends of a day.
  rcases hleap with ⟨rfl, hleap, -⟩ | ⟨rfl, -, hlt⟩ | rfl
  · have hfirst := le_secondOfDay_of_isLeap hleap
    simp only [EndsDay, isLeap_iff, nanosPerDay, nanosPerSecond] at *
    omega
  · simp only [EndsDay, isLeap_iff, nanosPerDay, nanosPerSecond] at *
    omega
  · simp only [EndsDay, isLeap_iff, nanosPerDay, nanosPerSecond] at *
    omega

/-- Less than a second over a day passes. -/
theorem timeTo_lt (s t : Instant) : s.timeTo t < nanosPerDay + nanosPerSecond := by
  by_contra hlong
  obtain ⟨-, -, hnano⟩ := (nanosPerDay_add_le_timeTo_iff (by decide)).mp (Int.not_lt.mp hlong)
  have ht := t.nano_lt
  omega

theorem nanosPerDay_le_timeTo_iff : nanosPerDay ≤ s.timeTo t ↔ s.SpansDay t := by
  have hiff := nanosPerDay_add_le_timeTo_iff (s := s) (t := t) (Int.le_refl 0)
  rwa [Int.add_zero, Int.add_zero, ← Int.natCast_add, Int.ofNat_le] at hiff

end Instant

namespace Stay

variable {s : Stay}

theorem duration_eq (s : Stay) :
    s.duration = s.nights * Instant.nanosPerDay + s.checkIn.timeTo s.checkOut := rfl

theorem duration_lt_iff :
    s.duration < (s.nights + 1) * Instant.nanosPerDay ↔ ¬ s.checkIn.SpansDay s.checkOut := by
  rw [← Instant.nanosPerDay_le_timeTo_iff, duration_eq]
  simp only [Instant.nanosPerDay]
  omega

theorem lt_duration_iff :
    (s.nights - 1) * Instant.nanosPerDay < s.duration ↔ ¬ s.checkOut.SpansDay s.checkIn := by
  rw [← Instant.nanosPerDay_le_timeTo_iff, duration_eq, Instant.timeTo_eq_neg s.checkOut]
  simp only [Instant.nanosPerDay]
  omega

theorem duration_of_eq (h : s.checkOut = s.checkIn) : s.duration = 0 := by
  have htime := Instant.timeTo_eq_neg s.checkIn s.checkIn
  rw [duration_eq, nights, Instant.daysTo, h, Int.sub_self, Int.zero_mul]
  omega

end Stay

namespace Sample

/-- The leap second before midnight after so many days, and so many nanoseconds of it. -/
def leapSecond (n nano : Nat) : Instant :=
  (Instant.ofSecond? (n * Instant.secondsPerDay - 1) (Instant.nanosPerSecond + nano)).getD .epoch

/-- An order for this stay. -/
def stayOrder (stay : Stay) : ReservationOrder := { order "res-1" 3 5 with stay }

end Sample

namespace Reservation

/-- The answers to an order at `now`. The first thing that is wrong with it is told. -/
structure Answers (now : Instant) (order : ReservationOrder) : Prop where
  minimumStay : make now order = .error .minimumStay ↔ order.stay.checkOut = order.stay.checkIn
  stayTooShort : make now order = .error .stayTooShort ↔
    order.stay.checkOut ≠ order.stay.checkIn ∧ order.stay.duration < Instant.nanosPerDay
  checkInPast : make now order = .error .checkInPast ↔
    Instant.nanosPerDay ≤ order.stay.duration ∧ order.stay.checkIn.day < now.day
  noGuests : make now order = .error .noGuests ↔
    Instant.nanosPerDay ≤ order.stay.duration ∧ now.day ≤ order.stay.checkIn.day ∧ order.guests = []
  accepted : ∀ r, make now order = .ok r ↔
    Instant.nanosPerDay ≤ order.stay.duration ∧ now.day ≤ order.stay.checkIn.day ∧
      order.guests ≠ [] ∧ r = fresh now order

theorem answers (now : Instant) (order : ReservationOrder) : Answers now order := by
  have hsame : order.stay.checkOut = order.stay.checkIn → order.stay.duration < Instant.nanosPerDay := by
    intro h
    rw [Stay.duration_of_eq h]
    decide
  constructor
  case accepted => exact fun r => make_eq_ok_iff
  -- Each of the errors is told in one place, and no check comes before it that the order has not passed.
  all_goals grind [make]

/-- The nights of a reservation made at `now`, beside the hours of its stay. They differ by a day or more only if that
much passes from one of the two times of day to the other. -/
structure CountsNights (now : Instant) (r : Reservation) : Prop where
  pending : r.status = .pending
  nights_pos : 1 ≤ r.nights ∨ r.nights = 0 ∧ r.stay.checkIn.SpansDay r.stay.checkOut
  lt_duration_iff :
    (r.nights - 1) * Instant.nanosPerDay < r.stay.duration ↔ ¬ r.stay.checkOut.SpansDay r.stay.checkIn
  duration_lt_iff :
    r.stay.duration < (r.nights + 1) * Instant.nanosPerDay ↔ ¬ r.stay.checkIn.SpansDay r.stay.checkOut
  daysUntilCheckIn : 0 ≤ r.daysUntilCheckIn now

theorem nights_pos_or {r : Reservation} (h : Instant.nanosPerDay ≤ r.stay.duration) :
    1 ≤ r.nights ∨ r.nights = 0 ∧ r.stay.checkIn.SpansDay r.stay.checkOut := by
  have htime := r.stay.checkIn.timeTo_lt r.stay.checkOut
  rw [← Instant.nanosPerDay_le_timeTo_iff]
  rw [Stay.duration_eq] at h
  simp only [nights, Instant.nanosPerDay, Instant.nanosPerSecond] at *
  omega

/-- Which orders are accepted, and how many nights those have. -/
theorem acceptance (now : Instant) (order : ReservationOrder) :
    Answers now order ∧ ∀ r, make now order = .ok r → CountsNights now r := by
  refine ⟨answers now order, fun r hmake => ?_⟩
  obtain ⟨hlong, hday, -, rfl⟩ := make_eq_ok_iff.mp hmake
  exact {
    pending := rfl
    nights_pos := nights_pos_or hlong
    lt_duration_iff := Stay.lt_duration_iff
    duration_lt_iff := Stay.duration_lt_iff
    daysUntilCheckIn := Int.sub_nonneg_of_le hday }

open Sample

theorem acceptance_of_two_nights :
    make (day 1) (order "res-1" 3 5) = .ok (fresh (day 1) (order "res-1" 3 5)) ∧
      CountsNights (day 1) (fresh (day 1) (order "res-1" 3 5)) ∧
      (fresh (day 1) (order "res-1" 3 5)).nights = 2 := by
  have hmake : make (day 1) (order "res-1" 3 5) = .ok (fresh (day 1) (order "res-1" 3 5)) := by
    decide +kernel
  exact ⟨hmake, (acceptance (day 1) (order "res-1" 3 5)).2 _ hmake, by decide +kernel⟩

/-- From midnight to the leap second at the end of the day it is a day without a night, and from there to the midnight
after next a day with two. -/
theorem sleepless_accepted :
    (∃ r, make (day 1) (stayOrder ⟨day 3, leapSecond 4 0⟩) = .ok r ∧
      r.nights = 0 ∧ r.stay.duration = (r.nights + 1) * Instant.nanosPerDay) ∧
    ∃ r, make (day 1) (stayOrder ⟨leapSecond 4 0, day 5⟩) = .ok r ∧
      r.nights = 2 ∧ r.stay.duration = (r.nights - 1) * Instant.nanosPerDay :=
  ⟨⟨fresh (day 1) (stayOrder ⟨day 3, leapSecond 4 0⟩), by decide +kernel⟩,
    ⟨fresh (day 1) (stayOrder ⟨leapSecond 4 0, day 5⟩), by decide +kernel⟩⟩

end Reservation
end HotelBooking
