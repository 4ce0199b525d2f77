import HotelBooking.Time.Date

/-!
# Points in time

An instant is a second, counted from 1970-01-01T00:00:00 UTC at 60 seconds a minute, and the nanoseconds
since that second began. A leap second may follow the last second of any minute; it goes on with the
nanoseconds of that second, which then has twice as many. So instants are ordered by second and then by
nanosecond, and a leap second lies on the day that it ends.

The representable instants are those of the years -262143 to 262142. Days are days of UTC: each instant
lies in exactly one.
-/

namespace HotelBooking

namespace Instant

def nanosPerSecond : Nat := 1000000000

def nanosPerHour : Int := 3600000000000

def nanosPerDay : Int := 86400000000000

def secondsPerDay : Int := 86400

/-- The start of the year -262143. -/
def firstSecond : Int := -8334601228800

/-- The last second of the year 262142. -/
def lastSecond : Int := 8210266876799

theorem firstSecond_eq : firstSecond = (Date.mk (-262143) 1 1).dayNumber * secondsPerDay := by decide

theorem lastSecond_eq : lastSecond = ((Date.mk 262142 12 31).dayNumber + 1) * secondsPerDay - 1 := by decide

end Instant

structure Instant where
  second : Int
  nano : Nat
  first_le : Instant.firstSecond ≤ second
  le_last : second ≤ Instant.lastSecond
  nano_lt : nano < 2 * Instant.nanosPerSecond
  /-- Only the last second of a minute goes on into a leap second. -/
  minute_ends : Instant.nanosPerSecond ≤ nano → second % 60 = 59
  deriving Repr, DecidableEq

namespace Instant

instance : LE Instant := ⟨fun s t => s.second < t.second ∨ s.second = t.second ∧ s.nano ≤ t.nano⟩

instance : LT Instant := ⟨fun s t => s.second < t.second ∨ s.second = t.second ∧ s.nano < t.nano⟩

instance (s t : Instant) : Decidable (s ≤ t) :=
  inferInstanceAs (Decidable (s.second < t.second ∨ s.second = t.second ∧ s.nano ≤ t.nano))

instance (s t : Instant) : Decidable (s < t) :=
  inferInstanceAs (Decidable (s.second < t.second ∨ s.second = t.second ∧ s.nano < t.nano))

def ofSecond? (second : Int) (nano : Nat) : Option Instant :=
  if h : firstSecond ≤ second ∧ second ≤ lastSecond ∧ nano < 2 * nanosPerSecond ∧
      (nanosPerSecond ≤ nano → second % 60 = 59) then
    some ⟨second, nano, h.1, h.2.1, h.2.2.1, h.2.2.2⟩
  else none

/-- The instant `n` nanoseconds after 1970-01-01T00:00:00 UTC, on a clock without leap seconds. -/
def ofNanos? (n : Int) : Option Instant :=
  ofSecond? (n / nanosPerSecond) (n % nanosPerSecond).toNat

/-- 1970-01-01T00:00:00 UTC. -/
def epoch : Instant := ⟨0, 0, by decide, by decide, by decide, by decide⟩

instance : Inhabited Instant := ⟨epoch⟩

/-- The instant lies in a leap second. -/
def isLeap (t : Instant) : Bool := nanosPerSecond ≤ t.nano

/-- The nanoseconds since 1970-01-01T00:00:00 UTC on a clock without leap seconds, which shows the first
second of the next minute during a leap second. -/
def nanos (t : Instant) : Int := t.second * nanosPerSecond + t.nano

/-- The instant that a clock without leap seconds shows. -/
def onClock? (t : Instant) : Option Instant := ofNanos? t.nanos

/-- The number of the day on which the instant lies. -/
def day (t : Instant) : Int := t.second / secondsPerDay

/-- The number of midnights between two instants. -/
def daysTo (s t : Instant) : Int := t.day - s.day

/-- The seconds since midnight. -/
def secondOfDay (t : Instant) : Nat := (t.second % secondsPerDay).toNat

/-- The nanoseconds from the time of day of `s` to that of `t`. A leap second at the earlier of the two
passes between them like any other second; one at the later is counted by its nanoseconds. -/
def timeTo (s t : Instant) : Int :=
  let leapSeconds : Int :=
    if s.isLeap ∧ s.secondOfDay < t.secondOfDay then 1
    else if t.isLeap ∧ t.secondOfDay < s.secondOfDay then -1
    else 0
  (t.secondOfDay - s.secondOfDay + leapSeconds) * nanosPerSecond + (t.nano - s.nano)

/-- The nanoseconds from `s` to `t`: 24 hours for each midnight between them, and what is between their
times of day. -/
def nanosTo (s t : Instant) : Int := s.daysTo t * nanosPerDay + s.timeTo t

/-- The instant `n` seconds later. After an instant in a leap second, the first second does not show on a
clock without leap seconds. -/
def addSeconds? (t : Instant) (n : Int) : Option Instant :=
  if n = 0 then some t
  else if t.isLeap ∧ 0 < n then ofNanos? (t.nanos + (n - 1) * nanosPerSecond)
  else ofNanos? (t.nanos + n * nanosPerSecond)

def addDays? (t : Instant) (n : Int) : Option Instant := t.addSeconds? (n * secondsPerDay)

theorem lt_iff {s t : Instant} : s < t ↔ s.second < t.second ∨ s.second = t.second ∧ s.nano < t.nano :=
  Iff.rfl

theorem le_iff {s t : Instant} : s ≤ t ↔ s.second < t.second ∨ s.second = t.second ∧ s.nano ≤ t.nano :=
  Iff.rfl

theorem not_lt {s t : Instant} : ¬ s < t ↔ t ≤ s := by
  rw [lt_iff, le_iff]
  omega

theorem le_refl (t : Instant) : t ≤ t := .inr ⟨rfl, Nat.le_refl _⟩

theorem le_of_lt {s t : Instant} (h : s < t) : s ≤ t := by
  rw [lt_iff] at h
  rw [le_iff]
  omega

theorem le_trans {s t u : Instant} (h : s ≤ t) (h' : t ≤ u) : s ≤ u := by
  rw [le_iff] at h h' ⊢
  omega

theorem lt_of_le_of_lt {s t u : Instant} (h : s ≤ t) (h' : t < u) : s < u := by
  rw [le_iff] at h
  rw [lt_iff] at h' ⊢
  omega

theorem isLeap_eq_false_iff {t : Instant} : t.isLeap = false ↔ t.nano < nanosPerSecond := by
  simp [isLeap]

theorem ofSecond?_eq_some_iff {second : Int} {nano : Nat} {t : Instant} :
    ofSecond? second nano = some t ↔ t.second = second ∧ t.nano = nano := by
  refine ⟨fun h => ?_, fun h => ?_⟩
  · simp only [ofSecond?] at h
    split at h
    · cases h
      exact ⟨rfl, rfl⟩
    · cases h
  · obtain ⟨rfl, rfl⟩ := h
    exact dif_pos ⟨t.first_le, t.le_last, t.nano_lt, t.minute_ends⟩

theorem ofNanos?_eq_some_iff {n : Int} {t : Instant} :
    ofNanos? n = some t ↔ t.isLeap = false ∧ t.nanos = n := by
  rw [ofNanos?, ofSecond?_eq_some_iff, isLeap_eq_false_iff]
  simp only [nanos, nanosPerSecond]
  omega

/-- Leap seconds can make time seem to pass between an instant and an earlier one, but not a day. -/
theorem nanosTo_lt_of_le {s t : Instant} (h : t ≤ s) : s.nanosTo t < nanosPerDay := by
  have hs := s.nano_lt
  have ht := t.nano_lt
  rw [le_iff] at h
  simp only [nanosTo, timeTo]
  generalize hleap : (if s.isLeap ∧ s.secondOfDay < t.secondOfDay then 1
    else if t.isLeap ∧ t.secondOfDay < s.secondOfDay then -1 else 0 : Int) = leapSeconds
  have hle : leapSeconds ≤ 1 := by
    rw [← hleap]
    split
    · omega
    · split <;> omega
  simp only [daysTo, day, secondOfDay, nanosPerDay, nanosPerSecond, secondsPerDay] at hs ht ⊢
  omega

/-- Who goes some days back does not come to a later instant, not even out of a leap second. -/
theorem le_of_addDays? {t u : Instant} {n : Int} (hn : n ≤ 0) (h : t.addDays? n = some u) : u ≤ t := by
  rw [addDays?, addSeconds?] at h
  split at h
  · cases h
    exact le_refl t
  · rw [secondsPerDay] at h
    rw [if_neg (by omega)] at h
    obtain ⟨hleap, hnanos⟩ := ofNanos?_eq_some_iff.mp h
    rw [isLeap_eq_false_iff] at hleap
    have ht := t.nano_lt
    simp only [nanos, nanosPerSecond, secondsPerDay] at *
    rw [le_iff]
    omega

end Instant
end HotelBooking
