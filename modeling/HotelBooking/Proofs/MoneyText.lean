import HotelBooking.Proofs.TimeText
import Mathlib.Data.List.Basic

/-!
# Reading money back

The text of money is its amount, with a point before the last two digits, and its currency behind a space. No amount
has a space in it, so the first one ends it, whatever the currency is. Read so, the text tells the amount and the
currency: different money is written differently (`Money.toText_exact`).
-/

namespace HotelBooking

open Text

namespace Money

/-- The digits of an amount, with a point before the last two. -/
def readUnits? (cs : List Char) : Option Nat :=
  match spanDigits cs with
  | (major, '.' :: minor) =>
    if major ≠ [] ∧ minor.length = 2 ∧ minor.all Char.isDigit then some (value major * 100 + value minor) else none
  | _ => none

/-- An amount, with a minus sign if it is negative. -/
def readAmount? : List Char → Option Int
  | '-' :: cs => (readUnits? cs).map fun n : Nat => -(n : Int)
  | cs => (readUnits? cs).map fun n : Nat => (n : Int)

/-- What is written before the first space. -/
def numberPart (s : String) : List Char := s.toList.takeWhile (· ≠ ' ')

/-- An amount, and the currency behind the first space. -/
def readText? (s : String) : Option (Int × String) :=
  match s.toList.dropWhile (· ≠ ' ') with
  | _ :: currency => (readAmount? (numberPart s)).map fun n => (n, String.ofList currency)
  | [] => none

variable (m n : Money)

theorem minorUnits_lt : m.minorUnits < 100 := Nat.mod_lt _ (by decide)

theorem natAbs_amount : m.majorUnits.natAbs * 100 + m.minorUnits = m.amount.toInt.natAbs := by
  rw [majorUnits, minorUnits, Int.natAbs_tdiv]
  exact Nat.div_add_mod' _ _

theorem amount_neg_iff : m.amount < 0 ↔ m.amount.toInt < 0 := Int64.lt_iff_toInt_lt

/-- The amount as it is written, without its sign. -/
def units : List Char := digits m.majorUnits.natAbs ++ '.' :: padded 2 m.minorUnits

theorem readUnits?_units : readUnits? m.units = some m.amount.toInt.natAbs := by
  have hspan : spanDigits m.units = (digits m.majorUnits.natAbs, '.' :: padded 2 m.minorUnits) :=
    spanDigits_append (fun c => isDigit_of_mem_digits) (by simp)
  have hdigits : digits m.majorUnits.natAbs ≠ [] := Nat.toDigits_ne_nil
  have hlength : (padded 2 m.minorUnits).length = 2 := length_padded (by decide) m.minorUnits_lt
  have hminor : (padded 2 m.minorUnits).all Char.isDigit = true :=
    List.all_eq_true.mpr fun c => isDigit_of_mem_padded
  rw [readUnits?, hspan]
  simp only [hdigits, hlength, hminor, ne_eq, not_false_eq_true, and_self, if_true, value_digits, value_padded,
    natAbs_amount]

/-- The point is the only character of it that is not a digit. -/
theorem isDigit_of_mem_units {c : Char} (h : c ∈ m.units) (hpoint : c ≠ '.') : c.isDigit = true := by
  rw [units, List.mem_append, List.mem_cons] at h
  rcases h with hmajor | rfl | hminor
  · exact isDigit_of_mem_digits hmajor
  · contradiction
  · exact isDigit_of_mem_padded hminor

theorem minus_not_mem_units : '-' ∉ m.units := fun h => absurd (m.isDigit_of_mem_units h (by decide)) (by decide)

theorem space_not_mem_units : ' ' ∉ m.units := fun h => absurd (m.isDigit_of_mem_units h (by decide)) (by decide)

/-- The amount as it is written. -/
def signedUnits : List Char := if m.amount < 0 then '-' :: m.units else m.units

theorem readAmount?_of_minus_not_mem {cs : List Char} (h : '-' ∉ cs) :
    readAmount? cs = (readUnits? cs).map fun n : Nat => (n : Int) := by
  unfold readAmount?
  split
  · exact absurd (List.mem_cons_self ..) h
  · rfl

theorem readAmount?_signedUnits : readAmount? m.signedUnits = some m.amount.toInt := by
  rw [signedUnits]
  by_cases hneg : m.amount < 0
  · rw [if_pos hneg, readAmount?, readUnits?_units, Option.map_some, Option.some.injEq]
    rw [amount_neg_iff] at hneg
    omega
  · rw [if_neg hneg, readAmount?_of_minus_not_mem m.minus_not_mem_units, readUnits?_units, Option.map_some,
      Option.some.injEq]
    rw [amount_neg_iff] at hneg
    omega

theorem toList_toText : m.toText.toList = m.signedUnits ++ ' ' :: m.currency.toList := by
  rw [toText, String.toList_ofList, signedUnits, units]
  split_ifs <;> simp

theorem ne_space_of_mem_signedUnits {c : Char} (h : c ∈ m.signedUnits) : decide (c ≠ ' ') = true := by
  rw [decide_eq_true_iff]
  rintro rfl
  rw [signedUnits] at h
  split_ifs at h
  · exact m.space_not_mem_units (List.mem_of_ne_of_mem (by decide) h)
  · exact m.space_not_mem_units h

theorem numberPart_toText : numberPart m.toText = m.signedUnits := by
  rw [numberPart, toList_toText, List.takeWhile_append_of_pos fun _ => m.ne_space_of_mem_signedUnits]
  simp

theorem readText?_toText : readText? m.toText = some (m.amount.toInt, m.currency) := by
  rw [readText?, numberPart_toText, readAmount?_signedUnits, toList_toText,
    List.dropWhile_append_of_pos fun _ => m.ne_space_of_mem_signedUnits]
  simp

variable {m n}

theorem toText_injective (h : m.toText = n.toText) : m = n := by
  have hread := congrArg readText? h
  simp only [readText?_toText, Option.some.injEq, Prod.mk.injEq] at hread
  exact ext_iff.mpr ⟨Int64.toInt_inj.mp hread.1, hread.2⟩

theorem signedUnits_ne_nil (m : Money) : m.signedUnits ≠ [] := by
  have hunits : m.units ≠ [] := List.append_ne_nil_of_left_ne_nil Nat.toDigits_ne_nil _
  rw [signedUnits]
  split_ifs
  · exact List.cons_ne_nil _ _
  · exact hunits

theorem minus_mem_signedUnits_iff : '-' ∈ m.signedUnits ↔ m.amount < 0 := by
  rw [signedUnits]
  split_ifs with hneg
  · simp [hneg]
  · simp [hneg, m.minus_not_mem_units]

theorem head?_signedUnits_iff : m.signedUnits.head? = some '-' ↔ m.amount < 0 := by
  rw [← minus_mem_signedUnits_iff]
  refine ⟨List.mem_of_mem_head?, fun h => ?_⟩
  rw [minus_mem_signedUnits_iff] at h
  rw [signedUnits, if_pos h, List.head?_cons]

/-- The text of an amount of a currency tells both, and nothing else is written the same. A minus sign stands before
negative amounts alone, those without whole units among them. -/
structure Tells (amount : Int64) (code : String) : Prop where
  minorUnits_le : (of amount code).minorUnits ≤ 99
  amount_eq : amount.toInt =
    amount.toInt.sign * ((of amount code).majorUnits.natAbs * 100 + (of amount code).minorUnits)
  read_eq : readText? (of amount code).toText = some (amount.toInt, upper code)
  eq_iff : ∀ m : Money, (of amount code).toText = m.toText ↔ of amount code = m
  minus_iff : '-' ∈ numberPart (of amount code).toText ↔ amount < 0
  head_iff : (of amount code).toText.toList.head? = some '-' ↔ amount < 0

theorem toText_exact (amount : Int64) (code : String) : Tells amount code where
  minorUnits_le := Nat.le_of_lt_succ (minorUnits_lt _)
  amount_eq := by
    have habs := natAbs_amount (of amount code)
    rw [amount_of] at habs
    have hsize : ((of amount code).majorUnits.natAbs : Int) * 100 + (of amount code).minorUnits =
        amount.toInt.natAbs := by omega
    rw [hsize, Int.sign_mul_natAbs]
  read_eq := readText?_toText _
  eq_iff m := ⟨toText_injective, congrArg toText⟩
  minus_iff := by
    rw [numberPart_toText]
    exact minus_mem_signedUnits_iff
  head_iff := by
    rw [toList_toText, List.head?_append_of_ne_nil _ (signedUnits_ne_nil _)]
    exact head?_signedUnits_iff

end Money
end HotelBooking
