import HotelBooking.Time.Instant

/-!
# Stays

A stay lasts from check-in up to, but not including, check-out: one that ends when another starts
does not overlap it.
-/

namespace HotelBooking

structure Stay where
  checkIn : Instant
  checkOut : Instant
  deriving Repr, DecidableEq

namespace Stay

/-- The guest is in the room at `t`. -/
def Covers (s : Stay) (t : Instant) : Prop := s.checkIn ≤ t ∧ t < s.checkOut

def overlaps (s t : Stay) : Bool := s.checkIn < t.checkOut && t.checkIn < s.checkOut

/-- The length of the stay in nanoseconds. -/
def duration (s : Stay) : Int := s.checkIn.nanosTo s.checkOut

/-- The number of midnights during the stay. -/
def nights (s : Stay) : Int := s.checkIn.daysTo s.checkOut

theorem overlaps_comm (s t : Stay) : s.overlaps t = t.overlaps s := Bool.and_comm ..

theorem checkIn_lt_checkOut {s : Stay} (h : Instant.nanosPerDay ≤ s.duration) :
    s.checkIn < s.checkOut := by
  by_cases hlt : s.checkIn < s.checkOut
  · exact hlt
  · have hle := Instant.nanosTo_lt_of_le (Instant.not_lt.mp hlt)
    rw [duration] at h
    omega

theorem overlaps_self {s : Stay} (h : s.checkIn < s.checkOut) : s.overlaps s = true := by
  simp [overlaps, h]

end Stay
end HotelBooking
