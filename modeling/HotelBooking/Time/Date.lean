/-!
# Calendar dates

Dates of the Gregorian calendar, carried back before its start and with a year 0, and their numbers
counted from 1970-01-01. Days and dates determine each other: `dayNumber_ofDayNumber` and
`ofDayNumber_dayNumber`.
-/

namespace HotelBooking

/-- A day of the calendar; months and days are counted from 1. -/
structure Date where
  year : Int
  month : Nat
  day : Nat
  deriving Repr, DecidableEq

namespace Date

def isLeapYear (y : Int) : Bool := y % 4 = 0 && (y % 100 ≠ 0 || y % 400 = 0)

def monthLengths (y : Int) : List Nat :=
  [31, if isLeapYear y then 29 else 28, 31, 30, 31, 30, 31, 31, 30, 31, 30, 31]

/-- The lengths together. -/
def totalDays : List Nat → Nat
  | [] => 0
  | l :: ls => l + totalDays ls

/-- The date exists in the calendar. -/
def Valid (d : Date) : Prop :=
  1 ≤ d.month ∧ 1 ≤ d.day ∧ ∃ n, (monthLengths d.year)[d.month - 1]? = some n ∧ d.day ≤ n

instance (d : Date) : Decidable d.Valid :=
  match h : (monthLengths d.year)[d.month - 1]? with
  | none => isFalse fun hv => by
    obtain ⟨_, _, n, hn, _⟩ := hv
    rw [h] at hn
    cases hn
  | some n =>
    if hd : 1 ≤ d.month ∧ 1 ≤ d.day ∧ d.day ≤ n then isTrue ⟨hd.1, hd.2.1, n, h, hd.2.2⟩
    else isFalse fun hv => by
      obtain ⟨h1, h2, m, hm, h3⟩ := hv
      rw [h] at hm
      cases hm
      exact hd ⟨h1, h2, h3⟩

/-- Days from 0000-01-01 to the first day of the year `y`. -/
def daysBeforeYear (y : Int) : Int :=
  365 * y + (y + 3) / 4 - (y + 99) / 100 + (y + 399) / 400

/-- The day number of 0000-01-01. -/
def firstDay : Int := -719528

def dayNumber (d : Date) : Int :=
  firstDay + daysBeforeYear d.year + totalDays ((monthLengths d.year).take (d.month - 1)) + (d.day - 1 : Nat)

/-- The year of the day `n` days after 0000-01-01. -/
def yearOfDay (n : Int) : Int :=
  let y := 400 * n / 146097
  if n < daysBeforeYear y then y - 1 else if daysBeforeYear (y + 1) ≤ n then y + 1 else y

/-- How many of the months are over after `n` days, and the days left. -/
def splitMonths : List Nat → Nat → Nat × Nat
  | [], n => (0, n)
  | l :: ls, n => if n < l then (0, n) else ((splitMonths ls (n - l)).1 + 1, (splitMonths ls (n - l)).2)

def ofDayNumber (n : Int) : Date :=
  let y := yearOfDay (n - firstDay)
  let (m, d) := splitMonths (monthLengths y) (n - firstDay - daysBeforeYear y).toNat
  ⟨y, m + 1, d + 1⟩

theorem isLeapYear_iff (y : Int) : isLeapYear y = true ↔ y % 4 = 0 ∧ (y % 100 ≠ 0 ∨ y % 400 = 0) := by
  simp [isLeapYear]

theorem totalDays_monthLengths (y : Int) :
    totalDays (monthLengths y) = if isLeapYear y then 366 else 365 := by
  by_cases h : isLeapYear y <;> simp [monthLengths, totalDays, h]

theorem daysBeforeYear_succ (y : Int) :
    daysBeforeYear (y + 1) = daysBeforeYear y + totalDays (monthLengths y) := by
  have h4 : (y + 1 + 3) / 4 = (y + 3) / 4 + if y % 4 = 0 then 1 else 0 := by split <;> omega
  have h100 : (y + 1 + 99) / 100 = (y + 99) / 100 + if y % 100 = 0 then 1 else 0 := by
    split <;> omega
  have h400 : (y + 1 + 399) / 400 = (y + 399) / 400 + if y % 400 = 0 then 1 else 0 := by
    split <;> omega
  have h1 : y % 400 = 0 → y % 100 = 0 := by omega
  have h2 : y % 100 = 0 → y % 4 = 0 := by omega
  rw [totalDays_monthLengths, daysBeforeYear, daysBeforeYear, h4, h100, h400]
  have := isLeapYear_iff y
  by_cases c4 : y % 4 = 0 <;> by_cases c100 : y % 100 = 0 <;> by_cases c400 : y % 400 = 0 <;>
    simp_all <;> omega

theorem daysBeforeYear_yearOfDay_le (n : Int) : daysBeforeYear (yearOfDay n) ≤ n := by
  simp only [yearOfDay]
  split
  · simp only [daysBeforeYear]
    omega
  · split <;> omega

theorem lt_daysBeforeYear_yearOfDay_succ (n : Int) : n < daysBeforeYear (yearOfDay n + 1) := by
  simp only [yearOfDay]
  split
  · rename_i h
    rw [Int.sub_add_cancel]
    exact h
  · split
    · simp only [daysBeforeYear]
      omega
    · omega

theorem splitMonths_lt (ls : List Nat) (n : Nat) (h : n < totalDays ls) :
    (splitMonths ls n).1 < ls.length ∧ ∃ l, ls[(splitMonths ls n).1]? = some l ∧
      (splitMonths ls n).2 < l ∧ totalDays (ls.take (splitMonths ls n).1) + (splitMonths ls n).2 = n := by
  induction ls generalizing n with
  | nil => exact absurd h (Nat.not_lt_zero n)
  | cons l ls ih =>
    simp only [splitMonths]
    split
    · exact ⟨by simp, l, by simp, by assumption, by simp [totalDays]⟩
    · rw [totalDays] at h
      obtain ⟨h1, m, h2, h3, h4⟩ := ih (n - l) (by omega)
      refine ⟨by simpa using h1, m, by simpa using h2, h3, ?_⟩
      simp only [List.take_succ_cons, totalDays]
      omega

theorem splitMonths_take {ls : List Nat} {m d l : Nat} (h : ls[m]? = some l) (hd : d < l) :
    splitMonths ls (totalDays (ls.take m) + d) = (m, d) := by
  induction ls generalizing m with
  | nil => simp at h
  | cons k ls ih =>
    cases m with
    | zero =>
      have : k = l := by simpa using h
      simp [splitMonths, totalDays, this, hd]
    | succ m =>
      rw [List.take_succ_cons, totalDays, splitMonths, if_neg (by omega),
        show k + totalDays (ls.take m) + d - k = totalDays (ls.take m) + d by omega, ih (by simpa using h)]

theorem totalDays_take_add_lt {ls : List Nat} {m d l : Nat} (h : ls[m]? = some l) (hd : d < l) :
    totalDays (ls.take m) + d < totalDays ls := by
  induction ls generalizing m with
  | nil => simp at h
  | cons k ls ih =>
    cases m with
    | zero =>
      have : k = l := by simpa using h
      simp only [List.take_zero, totalDays]
      omega
    | succ m =>
      have := ih (m := m) (by simpa using h)
      simp only [List.take_succ_cons, totalDays]
      omega

theorem yearOfDay_eq {n y : Int} (h1 : daysBeforeYear y ≤ n) (h2 : n < daysBeforeYear (y + 1)) :
    yearOfDay n = y := by
  have h3 := daysBeforeYear_yearOfDay_le n
  have h4 := lt_daysBeforeYear_yearOfDay_succ n
  have mono : ∀ a b : Int, a ≤ b → daysBeforeYear a ≤ daysBeforeYear b := by
    intro a b hab
    simp only [daysBeforeYear]
    omega
  rcases Int.lt_trichotomy (yearOfDay n) y with h | h | h
  · have := mono (yearOfDay n + 1) y (by omega)
    omega
  · exact h
  · have := mono (y + 1) (yearOfDay n) (by omega)
    omega

theorem valid_ofDayNumber (n : Int) : (ofDayNumber n).Valid := by
  have h1 := daysBeforeYear_yearOfDay_le (n - firstDay)
  have h2 := lt_daysBeforeYear_yearOfDay_succ (n - firstDay)
  rw [daysBeforeYear_succ] at h2
  obtain ⟨-, l, h4, h5, -⟩ := splitMonths_lt (monthLengths (yearOfDay (n - firstDay)))
    (n - firstDay - daysBeforeYear (yearOfDay (n - firstDay))).toNat (by omega)
  exact ⟨by simp [ofDayNumber], by simp [ofDayNumber], l, by simpa [ofDayNumber] using h4,
    by simp only [ofDayNumber]; omega⟩

theorem dayNumber_ofDayNumber (n : Int) : (ofDayNumber n).dayNumber = n := by
  have h1 := daysBeforeYear_yearOfDay_le (n - firstDay)
  have h2 := lt_daysBeforeYear_yearOfDay_succ (n - firstDay)
  rw [daysBeforeYear_succ] at h2
  obtain ⟨-, l, -, -, h6⟩ := splitMonths_lt (monthLengths (yearOfDay (n - firstDay)))
    (n - firstDay - daysBeforeYear (yearOfDay (n - firstDay))).toNat (by omega)
  simp only [dayNumber, ofDayNumber, Nat.add_sub_cancel]
  omega

theorem ofDayNumber_dayNumber {d : Date} (h : d.Valid) : ofDayNumber d.dayNumber = d := by
  obtain ⟨h1, h2, l, h3, h4⟩ := h
  have hsplit := splitMonths_take h3 (d := d.day - 1) (by omega)
  have hlt := totalDays_take_add_lt h3 (d := d.day - 1) (by omega)
  have hy : yearOfDay (d.dayNumber - firstDay) = d.year := by
    apply yearOfDay_eq
    · simp only [dayNumber]
      omega
    · rw [daysBeforeYear_succ]
      simp only [dayNumber]
      omega
  have hn : (d.dayNumber - firstDay - daysBeforeYear d.year).toNat =
      totalDays ((monthLengths d.year).take (d.month - 1)) + (d.day - 1) := by
    simp only [dayNumber]
    omega
  obtain ⟨year, month, day⟩ := d
  simp only at *
  simp only [ofDayNumber, hy, hn, hsplit, Date.mk.injEq, true_and]
  omega

end Date
end HotelBooking
