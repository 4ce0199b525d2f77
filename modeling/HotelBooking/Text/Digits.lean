/-!
# Decimal digits

Whole numbers written in base ten. Reading a written number gives it back: `value_digits`,
`value_padded`. So different numbers are written differently: `signedDigits_injective`.
-/

namespace HotelBooking.Text

def digits (n : Nat) : List Char := Nat.toDigits 10 n

/-- A number with a minus sign if it is negative. -/
def signedDigits (n : Int) : List Char :=
  if n < 0 then '-' :: digits n.natAbs else digits n.natAbs

/-- At least `width` digits, filled up with zeros. -/
def padded (width n : Nat) : List Char :=
  List.replicate (width - (digits n).length) '0' ++ digits n

/-- The number that a row of digits stands for. -/
def value (ds : List Char) : Nat := Nat.ofDigitChars 10 ds 0

/-- The digits at the front of a text, at most `width` of them, and the rest. -/
def takeDigits (width : Nat) (cs : List Char) : List Char × List Char :=
  let ds := (cs.take width).takeWhile Char.isDigit
  (ds, cs.drop ds.length)

/-- All digits at the front of a text, and the rest. -/
def spanDigits (cs : List Char) : List Char × List Char :=
  (cs.takeWhile Char.isDigit, cs.dropWhile Char.isDigit)

theorem isDigit_of_mem_digits {n : Nat} {c : Char} (h : c ∈ digits n) : c.isDigit = true :=
  Nat.isDigit_of_mem_toDigits (by decide) (by decide) h

theorem isDigit_of_mem_padded {width n : Nat} {c : Char} (h : c ∈ padded width n) :
    c.isDigit = true := by
  rcases List.mem_append.1 h with h | h
  · rw [(List.mem_replicate.1 h).2]
    rfl
  · exact isDigit_of_mem_digits h

theorem value_digits (n : Nat) : value (digits n) = n :=
  Nat.ofDigitChars_toDigits (by decide) (by decide)

theorem digits_injective {m n : Nat} (h : digits m = digits n) : m = n := by
  have hvalue := congrArg value h
  rwa [value_digits, value_digits] at hvalue

theorem minus_not_mem_digits (n : Nat) : '-' ∉ digits n := fun h =>
  absurd (isDigit_of_mem_digits h) (by decide)

theorem signedDigits_injective {m n : Int} (h : signedDigits m = signedDigits n) : m = n := by
  unfold signedDigits at h
  by_cases hm : m < 0 <;> by_cases hn : n < 0 <;> simp only [hm, hn, if_true, if_false] at h
  · have habs := digits_injective (List.cons.inj h).2
    omega
  · exact absurd (h ▸ List.mem_cons_self ..) (minus_not_mem_digits n.natAbs)
  · exact absurd (h ▸ List.mem_cons_self ..) (minus_not_mem_digits m.natAbs)
  · have habs := digits_injective h
    omega

theorem value_replicate_append (k : Nat) (ds : List Char) :
    value (List.replicate k '0' ++ ds) = value ds := by
  induction k with
  | zero => rfl
  | succ k ih => rw [List.replicate_succ, List.cons_append, ← ih]; rfl

theorem value_padded (width n : Nat) : value (padded width n) = n := by
  rw [padded, value_replicate_append, value_digits]

end HotelBooking.Text
