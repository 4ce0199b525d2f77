/-!
# Whole numbers of 64 bits

Amounts and settings are whole numbers of 64 bits with a sign.
-/

namespace HotelBooking

/-- The number as a word of 64 bits, if it is one. -/
def word? (n : Int) : Option Int64 :=
  if Int64.minValue.toInt ≤ n ∧ n ≤ Int64.maxValue.toInt then some (Int64.ofInt n) else none

theorem word?_toInt (w : Int64) : word? w.toInt = some w := by
  rw [word?, if_pos ⟨Int64.minValue_le_toInt w, Int64.toInt_le w⟩, Int64.ofInt_toInt]

theorem word?_eq_some_iff {n : Int} {w : Int64} : word? n = some w ↔ w.toInt = n := by
  constructor
  · intro h
    simp only [word?] at h
    split at h
    · rename_i hn
      cases h
      rw [Int64.toInt_minValue, Int64.toInt_maxValue] at hn
      exact Int64.toInt_ofInt_of_le hn.1 (Int.lt_of_le_sub_one hn.2)
    · cases h
  · rintro rfl
    exact word?_toInt w

end HotelBooking
