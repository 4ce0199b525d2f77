import HotelBooking.Text.UpperMapping

/-!
# Upper case

`upper` writes every character of a text in upper case. Doing it twice is doing it once, `upper_upper`,
because no character that the mapping produces is mapped any further.
-/

namespace HotelBooking.Text

def CaseBlock.mapped (b : CaseBlock) (c : Nat) : List Nat :=
  match b.sequences.lookup c with
  | some cs => cs
  | none =>
    match b.ranges.findSome? (·.mapped? c) with
    | some d => [d]
    | none => [c]

/-- The upper-case form of a code point. -/
def upperCode (c : Nat) : List Nat :=
  match upperBlocks.find? (·.number == c / 256) with
  | some b => b.mapped c
  | none => [c]

def upperChar (c : Char) : List Char := (upperCode c.toNat).map Char.ofNat

def upper (s : String) : String := String.ofList (s.toList.flatMap upperChar)

/-- A character's code point that is its own upper-case form. -/
def isUpperFixed (c : Nat) : Bool :=
  (c < 0xD800 || (0xDFFF < c && c < 0x110000)) && upperCode c == [c]

set_option maxRecDepth 100000 in
theorem upperBlocks_fixed :
    (upperBlocks.all fun b =>
      (b.sequences.all fun (_, cs) => cs.all isUpperFixed) &&
      (b.ranges.all fun r =>
        (List.range (r.last - r.first + 1)).all fun n =>
          n % r.step != 0 || isUpperFixed (r.image + n))) = true := by decide +kernel

theorem isUpperFixed_char {c : Char} (h : upperCode c.toNat = [c.toNat]) :
    isUpperFixed c.toNat = true := by
  have hc : c.toNat < 0xD800 ∨ 0xDFFF < c.toNat ∧ c.toNat < 0x110000 := c.valid
  simp only [isUpperFixed, h, beq_self_eq_true, Bool.and_true, Bool.or_eq_true, Bool.and_eq_true,
    decide_eq_true_eq]
  exact hc

theorem mem_of_lookup {α β : Type} [BEq α] [LawfulBEq α] {k : α} {v : β} {l : List (α × β)}
    (h : l.lookup k = some v) : (k, v) ∈ l := by
  obtain ⟨l₁, l₂, rfl, -⟩ := List.lookup_eq_some_iff.1 h
  simp

/-- Whatever the mapping produces is its own upper-case form. -/
theorem isUpperFixed_of_mem {c : Char} {d : Nat} (h : d ∈ upperCode c.toNat) :
    isUpperFixed d = true := by
  have own : upperCode c.toNat = [c.toNat] → isUpperFixed d = true := fun hc => by
    rw [hc, List.mem_singleton] at h
    exact h ▸ isUpperFixed_char hc
  have table := List.all_eq_true.1 upperBlocks_fixed
  cases hb : upperBlocks.find? (·.number == c.toNat / 256) with
  | none => exact own (by simp [upperCode, hb])
  | some b =>
    have hmem := table b (List.mem_of_find?_eq_some hb)
    simp only [Bool.and_eq_true] at hmem
    cases hs : b.sequences.lookup c.toNat with
    | some cs =>
      have := List.all_eq_true.1 hmem.1 _ (mem_of_lookup hs)
      rw [upperCode, hb] at h
      simp only [CaseBlock.mapped, hs] at h
      exact List.all_eq_true.1 this d h
    | none =>
      cases hr : b.ranges.findSome? (·.mapped? c.toNat) with
      | none => exact own (by simp [upperCode, hb, CaseBlock.mapped, hs, hr])
      | some e =>
        rw [upperCode, hb] at h
        simp only [CaseBlock.mapped, hs, hr, List.mem_singleton] at h
        obtain ⟨r, hrm, hre⟩ := List.exists_of_findSome?_eq_some hr
        simp only [CaseRange.mapped?] at hre
        split at hre
        · rename_i hin
          simp only [Bool.and_eq_true, decide_eq_true_eq, beq_iff_eq] at hin
          have := List.all_eq_true.1 (List.all_eq_true.1 hmem.2 r hrm) (c.toNat - r.first)
            (List.mem_range.2 (by omega))
          simp only [hin.2, bne_self_eq_false, Bool.false_or] at this
          cases hre
          exact h ▸ this
        · cases hre

theorem upperChar_of_isUpperFixed {d : Nat} (h : isUpperFixed d = true) :
    upperChar (Char.ofNat d) = [Char.ofNat d] := by
  simp only [isUpperFixed, Bool.and_eq_true, Bool.or_eq_true, decide_eq_true_eq, beq_iff_eq] at h
  have hv : d.isValidChar := h.1
  have : (Char.ofNat d).toNat = d := by
    rw [Char.ofNat, dif_pos hv]
    rfl
  simp [upperChar, this, h.2]

theorem flatMap_upperChar_upperChar (c : Char) :
    (upperChar c).flatMap upperChar = upperChar c := by
  have : ∀ d ∈ upperChar c, upperChar d = [d] := by
    intro d hd
    obtain ⟨n, hn, rfl⟩ := List.mem_map.1 hd
    exact upperChar_of_isUpperFixed (isUpperFixed_of_mem hn)
  generalize upperChar c = cs at this
  induction cs with
  | nil => rfl
  | cons d ds ih =>
    rw [List.flatMap_cons, this d (by simp), ih fun e he => this e (by simp [he])]
    rfl

/-- A text in upper case stays as it is. -/
theorem upper_upper (s : String) : upper (upper s) = upper s := by
  simp only [upper, String.toList_ofList]
  congr 1
  induction s.toList with
  | nil => rfl
  | cons c cs ih => rw [List.flatMap_cons, List.flatMap_append, flatMap_upperChar_upperChar, ih]

end HotelBooking.Text
