import HotelBooking.Reservation.Json
import Mathlib.Algebra.GroupWithZero.Nat
import Mathlib.Tactic.SplitIfs

/-!
# Reading times back

An instant is read back from its text as it was written, leap seconds and years of any size included
(`Instant.ofText?_toText`).

Each reader is given what the writer of its part has written, with the rest of the text behind it.
-/

namespace HotelBooking

namespace Text

theorem length_padded {width n : Nat} (hwidth : 0 < width) (hn : n < 10 ^ width) :
    (padded width n).length = width := by
  have hle : (digits n).length ≤ width := (Nat.length_toDigits_le_iff (by decide) hwidth).mpr hn
  simp only [padded, List.length_append, List.length_replicate]
  omega

theorem padded_ne_nil (width n : Nat) : padded width n ≠ [] :=
  List.append_ne_nil_of_right_ne_nil _ Nat.toDigits_ne_nil

theorem value_append_zeros (ds : List Char) (k : Nat) :
    value (ds ++ List.replicate k '0') = value ds * 10 ^ k := by
  have hzeros (n : Nat) : Nat.ofDigitChars 10 (List.replicate k '0') n = n * 10 ^ k := by
    induction k generalizing n with
    | zero => simp [Nat.ofDigitChars_nil]
    | succ k ih =>
        rw [List.replicate_succ, Nat.ofDigitChars_cons, ih, Nat.pow_succ]
        simp only [Nat.sub_self, Nat.add_zero]
        rw [Nat.mul_comm 10 n, Nat.mul_assoc, Nat.mul_comm 10]
  rw [value, Nat.ofDigitChars_append, hzeros]
  rfl

theorem isBlank_of_isDigit {c : Char} (h : c.isDigit = true) : isBlank c = false := by
  simp only [Char.isDigit, Bool.and_eq_true, decide_eq_true_eq, ge_iff_le, UInt32.le_iff_toNat_le] at h
  have hfirst : 48 ≤ c.toNat := h.1
  have hlast : c.toNat ≤ 57 := h.2
  simp only [isBlank, blankRanges, List.any_cons, List.any_nil, Bool.or_eq_false_iff,
    Bool.and_eq_false_iff, decide_eq_false_iff_not, and_true]
  omega

section
variable {ds rest : List Char} (hds : ∀ c ∈ ds, c.isDigit = true)
include hds

theorem skipBlanks_digits (hne : ds ≠ []) : skipBlanks (ds ++ rest) = ds ++ rest := by
  cases ds with
  | nil => exact absurd rfl hne
  | cons d ds =>
      have hd := isBlank_of_isDigit (hds d (List.mem_cons_self ..))
      rw [skipBlanks, List.cons_append, List.dropWhile_cons_of_neg (by simp [hd])]

theorem spanDigits_append (hrest : ∀ c ∈ rest.head?, c.isDigit = false) :
    spanDigits (ds ++ rest) = (ds, rest) := by
  rw [spanDigits, List.takeWhile_append_of_pos hds, List.dropWhile_append_of_pos hds]
  cases rest with
  | nil => rw [List.takeWhile_nil, List.dropWhile_nil, List.append_nil]
  | cons c rest =>
      have hc : c.isDigit = false := hrest c rfl
      rw [List.takeWhile_cons_of_neg (by simp [hc]), List.dropWhile_cons_of_neg (by simp [hc]),
        List.append_nil]

theorem takeDigits_append (rest : List Char) : takeDigits ds.length (ds ++ rest) = (ds, rest) := by
  have hall : (ds ++ []).takeWhile Char.isDigit = ds ++ [] := List.takeWhile_append_of_pos hds
  rw [List.append_nil] at hall
  simp [takeDigits, hall]

end
end Text

open Text

namespace Date

variable {d : Date}

theorem Valid.month_lt (h : d.Valid) : d.month < 100 := by
  obtain ⟨-, -, n, hn, -⟩ := h
  have hlt := (List.getElem?_eq_some_iff.mp hn).choose
  simp only [monthLengths, List.length_cons, List.length_nil] at hlt
  omega

theorem Valid.day_lt (h : d.Valid) : d.day < 100 := by
  obtain ⟨-, -, n, hn, hday⟩ := h
  have hlengths : ∀ n ∈ monthLengths d.year, n ≤ 31 := by
    unfold monthLengths
    cases isLeapYear d.year <;> decide
  have hle := hlengths n (List.mem_of_getElem? hn)
  omega

end Date

namespace Instant

theorem readNumber_padded {width n : Nat} (hwidth : 0 < width) (hn : n < 10 ^ width)
    (rest : List Char) : readNumber width (padded width n ++ rest) = some (n, rest) := by
  have hds (c : Char) (hc : c ∈ padded width n) : c.isDigit = true := isDigit_of_mem_padded hc
  have htake := takeDigits_append hds rest
  rw [length_padded hwidth hn] at htake
  have hvalue := value_padded width n
  rw [readNumber, skipBlanks_digits hds (padded_ne_nil width n), htake]
  obtain ⟨d, ds, hpadded⟩ := List.exists_cons_of_ne_nil (padded_ne_nil width n)
  simp only [hpadded] at hvalue ⊢
  rw [hvalue]

theorem readNumber_two {n : Nat} (hn : n < 100) (rest : List Char) :
    readNumber 2 (padded 2 n ++ rest) = some (n, rest) :=
  readNumber_padded (by decide) hn rest

theorem readMark_cons {c : Char} (hc : isBlank c = false) (rest : List Char) :
    readMark c (c :: rest) = some rest := by
  rw [readMark, skipBlanks, List.dropWhile_cons_of_neg (by simp [hc])]
  exact if_pos rfl

/-- A sign is neither a blank nor a digit, and what is behind it is read whole. -/
theorem readYear_signed (n : Nat) (rest : List Char) :
    readYear ('-' :: padded 4 n ++ '-' :: rest) = some (-(n : Int), '-' :: rest) ∧
      readYear ('+' :: padded 4 n ++ '-' :: rest) = some ((n : Int), '-' :: rest) := by
  have hspan : spanDigits (padded 4 n ++ '-' :: rest) = (padded 4 n, '-' :: rest) :=
    spanDigits_append (fun _ hc => isDigit_of_mem_padded hc) (by simp)
  have hskip (c : Char) (hc : isBlank c = false) :
      skipBlanks (c :: (padded 4 n ++ '-' :: rest)) = c :: (padded 4 n ++ '-' :: rest) := by
    rw [skipBlanks, List.dropWhile_cons_of_neg (by simp [hc])]
  have hvalue := value_padded 4 n
  obtain ⟨d, ds, hpadded⟩ := List.exists_cons_of_ne_nil (padded_ne_nil 4 n)
  simp only [hpadded, List.cons_append] at hspan hskip hvalue ⊢
  constructor
  · simp only [readYear, hskip '-' (by decide), hspan, hvalue]
  · simp only [readYear, hskip '+' (by decide), hspan, hvalue]

theorem readYear_yearText (y : Int) (rest : List Char) :
    readYear (Date.yearText y ++ '-' :: rest) = some (y, '-' :: rest) := by
  unfold Date.yearText
  split_ifs with hy hneg
  · have hds (c : Char) (hc : c ∈ padded 4 y.toNat) : c.isDigit = true := isDigit_of_mem_padded hc
    have hsign (c : Char) (cs : List Char) (h : padded 4 y.toNat ++ '-' :: rest = c :: cs) :
        c.isDigit = true := by
      cases hpadded : padded 4 y.toNat with
      | nil => exact absurd hpadded (padded_ne_nil 4 y.toNat)
      | cons d ds =>
          rw [hpadded] at h hds
          cases h
          exact hds c (List.mem_cons_self ..)
    have hlt : y.toNat < 10 ^ 4 := by omega
    have hread := readNumber_padded (by decide) hlt ('-' :: rest)
    rw [readYear, skipBlanks_digits hds (padded_ne_nil 4 y.toNat)]
    split
    · rename_i h
      exact absurd (hsign _ _ h) (by decide)
    · rename_i h
      exact absurd (hsign _ _ h) (by decide)
    · rw [hread]
      change some ((y.toNat : Int), '-' :: rest) = _
      rw [Int.toNat_of_nonneg hy.1]
  · rw [(readYear_signed y.natAbs rest).1]
    congr 2
    omega
  · rw [(readYear_signed y.natAbs rest).2]
    congr 2
    omega

theorem readDate_toText {d : Date} (h : d.Valid) (rest : List Char) :
    readDate (d.toText ++ rest) = some (d, rest) := by
  have hmark (cs : List Char) : readMark '-' ('-' :: cs) = some cs := readMark_cons (by decide) cs
  simp only [readDate, Date.toText, List.append_assoc, List.cons_append, Option.bind_eq_bind,
    Option.bind_some, Option.pure_def, readYear_yearText, readNumber_two h.month_lt,
    readNumber_two h.day_lt, hmark]

/-- The digits that a fraction is written with are exact. -/
theorem readFraction_padded {width n : Nat} (hwidth : 0 < width) (hle : width ≤ 9) (hn : n < 10 ^ width)
    {c : Char} (hc : c.isDigit = false) (rest : List Char) :
    readFraction ('.' :: padded width n ++ c :: rest) = some (n * 10 ^ (9 - width), c :: rest) := by
  have hspan : spanDigits (padded width n ++ c :: rest) = (padded width n, c :: rest) :=
    spanDigits_append (fun _ hc => isDigit_of_mem_padded hc) (by simp [hc])
  have hvalue : value ((padded width n ++ List.replicate 9 '0').take 9) = n * 10 ^ (9 - width) := by
    rw [List.take_append, length_padded hwidth hn, List.take_of_length_le (by
      rw [length_padded hwidth hn]; exact hle), List.take_replicate, Nat.min_eq_left (by omega),
      value_append_zeros, value_padded]
  rw [List.cons_append, readFraction, hspan]
  obtain ⟨d, ds, hpadded⟩ := List.exists_cons_of_ne_nil (padded_ne_nil width n)
  simp only [hpadded] at hvalue ⊢
  rw [hvalue]

theorem readFraction_fractionText {nanos : Nat} (h : nanos < nanosPerSecond) (rest : List Char) :
    readFraction (fractionText nanos ++ 'Z' :: rest) = some (nanos, 'Z' :: rest) := by
  unfold nanosPerSecond at h
  unfold fractionText
  split_ifs with hzero hmilli hmicro
  · rw [hzero]
    rfl
  · rw [readFraction_padded (by decide) (by decide) (by omega) (by decide)]
    congr 2
    omega
  · rw [readFraction_padded (by decide) (by decide) (by omega) (by decide)]
    congr 2
    omega
  · rw [readFraction_padded (by decide) (by decide) (by omega) (by decide)]
    congr 2
    omega

/-- The second 60 stands for the leap second after the second 59. -/
theorem readTime_timeText (t : Instant) (rest : List Char) :
    readTime (t.timeText ++ 'Z' :: rest) = some ((t.secondOfDay, t.nano), 'Z' :: rest) := by
  have hday : t.secondOfDay < 86400 := by
    simp only [secondOfDay, secondsPerDay]
    omega
  have hnano := t.nano_lt
  have hleap : nanosPerSecond ≤ t.nano → t.secondOfDay % 60 = 59 := by
    intro h
    have hends := t.minute_ends h
    simp only [secondOfDay, secondsPerDay]
    omega
  have hfraction := readFraction_fractionText (Nat.mod_lt t.nano (by decide : 0 < nanosPerSecond)) rest
  unfold nanosPerSecond at hnano hleap hfraction
  have hhour : t.secondOfDay / 3600 < 100 := by omega
  have hminute : t.secondOfDay / 60 % 60 < 100 := by omega
  have hsecond : t.secondOfDay % 60 + t.nano / 1000000000 < 100 := by omega
  have hmark (cs : List Char) : readMark ':' (':' :: cs) = some cs := readMark_cons (by decide) cs
  simp only [readTime, timeText, nanosPerSecond, List.append_assoc, List.cons_append,
    Option.bind_eq_bind, Option.bind_some, Option.pure_def, readNumber_two hhour, hmark,
    readNumber_two hminute, readNumber_two hsecond, hfraction]
  rw [if_pos (by omega)]
  congr 3
  · omega
  · omega

theorem ofText?_toText (t : Instant) : ofText? t.toText = some t := by
  have hvalid := Date.valid_ofDayNumber t.day
  have hsecond : t.day * secondsPerDay + t.secondOfDay = t.second := by
    simp only [day, secondOfDay, secondsPerDay]
    omega
  have hread : ofSecond? t.second t.nano = some t := ofSecond?_eq_some_iff.mpr ⟨rfl, rfl⟩
  have hoffset : readOffset ['Z'] = some (0, []) := by decide
  simp only [ofText?, toText, String.toList_ofList, List.append_assoc, List.cons_append,
    readDate_toText hvalid, Option.bind_eq_bind, Option.bind_some, readSeparator]
  simp only [true_or, if_true, Option.bind_some, readTime_timeText, hoffset,
    Date.dayNumber_ofDayNumber, hsecond]
  rw [if_pos ⟨hvalid, rfl⟩, hread]
  simp only [Option.bind_some, Int.sub_zero, hread]

@[simp] theorem ofJson?_toJson (t : Instant) : ofJson? t.toJson = some t := by
  rw [ofJson?, toJson, Json.text?, Option.bind_some, ofText?_toText]

end Instant

@[simp] theorem Stay.ofJson?_toJson (s : Stay) : ofJson? s.toJson = some s := by
  simp [toJson, ofJson?, Json.fields?, List.lookup_cons, Json.required, Instant.ofJson?_toJson]

end HotelBooking
