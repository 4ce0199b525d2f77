import HotelBooking.Json.Reader
import HotelBooking.Json.Writer
import HotelBooking.Proofs.TimeText

/-!
# Reading JSON back

A legible value is read back from its text as it was written (`Json.parse_render`): its whole numbers are
in range, its decimals are such as reading gives, and its records have no name twice. Each reader is given
what the writer of its part has written, with the rest of the text behind it.
-/

namespace HotelBooking

open Text

namespace Text

theorem digits_of_lt {n : Nat} (h : n < 10) : digits n = [Nat.digitChar n] :=
  Nat.toDigits_of_lt_base h

theorem digits_of_le {n : Nat} (h : 10 ≤ n) : digits n = digits (n / 10) ++ [Nat.digitChar (n % 10)] :=
  Nat.toDigits_of_base_le (by decide) h

/-- Only zero is written with a zero in front. -/
theorem head_digits {n : Nat} (hn : 0 < n) : ∃ d ds, digits n = d :: ds ∧ d ≠ '0' := by
  induction n using Nat.strongRecOn with
  | ind n ih =>
      by_cases hsmall : n < 10
      · have hnonzero : ∀ k < 10, 0 < k → Nat.digitChar k ≠ '0' := by decide
        exact ⟨_, _, digits_of_lt hsmall, hnonzero n hsmall hn⟩
      · obtain ⟨d, ds, hdigits, hd⟩ := ih (n / 10) (by omega) (by omega)
        refine ⟨d, ds ++ [Nat.digitChar (n % 10)], ?_, hd⟩
        rw [digits_of_le (by omega), hdigits, List.cons_append]

theorem digits_ne_nil (n : Nat) : digits n ≠ [] := Nat.toDigits_ne_nil

theorem exists_digits_eq_cons (n : Nat) : ∃ d ds, digits n = d :: ds ∧ d.isDigit = true := by
  obtain ⟨d, ds, hdigits⟩ := List.exists_cons_of_ne_nil (digits_ne_nil n)
  exact ⟨d, ds, hdigits, isDigit_of_mem_digits (hdigits ▸ List.mem_cons_self ..)⟩

end Text

/-- The decimal is such as reading gives: it fits into double precision. -/
def Decimal.Stable (d : Decimal) : Prop :=
  d.significand < UInt64.size ∧ d.inDoublePrecision? = some d

namespace Json

/-- The value can be read back from its text. -/
inductive Legible : Json → Prop
  | null : Legible null
  | bool (b : Bool) : Legible (bool b)
  | int {n : Int} : isWholeRange n = true → Legible (int n)
  | real {d : Decimal} : d.Stable → Legible (real d)
  | text (s : String) : Legible (text s)
  | list {items : List Json} : (∀ j ∈ items, Legible j) → Legible (list items)
  | record {members : List (String × Json)} : (members.map Prod.fst).Nodup →
      (∀ m ∈ members, Legible m.2) → Legible (record members)

/-- What may stand behind a value: nothing, or a mark that follows a value. -/
def Ends (rest : List Char) : Prop := ∀ c ∈ rest.head?, c = ',' ∨ c = ']' ∨ c = '\x7d'

/-! ### Texts -/

theorem hexValue4_control : ∀ n < 0x20,
    hexValue4 '0' '0' (hexDigit (n / 16)) (hexDigit (n % 16)) = some n := by decide

/-- An escaped character is read as the character. -/
theorem readText_escapeChar (c : Char) (rest : List Char) :
    readText (escapeChar c ++ rest) = (readText rest).map fun (cs, r) => (c :: cs, r) := by
  unfold escapeChar
  split_ifs with hquote hbackslash hnewline hreturn htab hback hfeed hcontrol
  · rw [hquote]
    rfl
  · rw [hbackslash]
    rfl
  · rw [hnewline]
    rfl
  · rw [hreturn]
    rfl
  · rw [htab]
    rfl
  · rw [hback]
    rfl
  · rw [hfeed]
    rfl
  · have hlow : ¬ (0xD800 ≤ c.toNat ∧ c.toNat < 0xDC00) := by omega
    have hhigh : ¬ (0xDC00 ≤ c.toNat ∧ c.toNat < 0xE000) := by omega
    simp only [List.cons_append, List.nil_append]
    rw [readText, hexValue4_control _ hcontrol]
    simp only [if_neg hlow, if_neg hhigh, Char.ofNat_toNat]
  · rw [List.singleton_append, readText, if_neg hcontrol]
    · exact hquote
    · intro a b c' d rest' h
      exact absurd h hbackslash
    · intro c' rest' h
      exact absurd h hbackslash

theorem readText_flatMap_escapeChar (cs rest : List Char) :
    readText (cs.flatMap escapeChar ++ '"' :: rest) = some (cs, rest) := by
  induction cs with
  | nil => rfl
  | cons c cs ih =>
      rw [List.flatMap_cons, List.append_assoc, readText_escapeChar, ih]
      rfl

/-! ### Numbers -/

section
variable {rest : List Char}

theorem Ends.isDigit (h : Ends rest) : ∀ c ∈ rest.head?, c.isDigit = false := by
  intro c hc
  rcases h c hc with rfl | rfl | rfl <;> rfl

theorem readWhole_digits (n : Nat) (hrest : ∀ c ∈ rest.head?, c.isDigit = false) :
    readWhole (digits n ++ rest) = some (digits n, rest) := by
  rw [readWhole, spanDigits_append (fun _ => isDigit_of_mem_digits) hrest]
  rcases n.eq_zero_or_pos with rfl | hn
  · rfl
  · obtain ⟨d, ds, hdigits, hd⟩ := head_digits hn
    rw [hdigits]
    split
    · rename_i heq
      cases heq
    · rename_i heq
      cases heq
      exact absurd rfl hd
    · rename_i heq
      cases heq
      rfl

theorem readFraction_of_ends (h : Ends rest) : readFraction rest = some ([], rest) := by
  unfold readFraction
  split
  · rcases h '.' rfl with h | h | h <;> contradiction
  · rfl

theorem readExponent_of_ends (h : Ends rest) : readExponent rest = some (none, rest) := by
  unfold readExponent
  split
  · rename_i c cs
    rw [if_neg]
    rcases h c rfl with rfl | rfl | rfl <;> decide
  · rfl

theorem readSign_of_isDigit {d : Char} (hd : d.isDigit = true) (cs : List Char) :
    readSign (d :: cs) = (false, d :: cs) := by
  unfold readSign
  split
  · rename_i heq
    cases heq
    contradiction
  · rename_i heq
    cases heq
    contradiction
  · rfl

theorem readExponent_signedDigits (e : Int) (h : Ends rest) :
    readExponent ('e' :: (signedDigits e ++ rest)) = some (some e, rest) := by
  obtain ⟨d, ds, hdigits, hd⟩ := exists_digits_eq_cons e.natAbs
  have hspan : spanDigits (d :: (ds ++ rest)) = (d :: ds, rest) := by
    rw [← List.cons_append, ← hdigits]
    exact spanDigits_append (fun _ => isDigit_of_mem_digits) h.isDigit
  have hvalue : value (d :: ds) = e.natAbs := hdigits ▸ value_digits e.natAbs
  unfold signedDigits
  split_ifs with hnegative
  · have hsign : readSign ('-' :: d :: (ds ++ rest)) = (true, d :: (ds ++ rest)) := rfl
    simp only [readExponent, List.cons_append, hdigits, true_or, if_true, hsign, hspan, hvalue]
    congr 3
    omega
  · have hsign := readSign_of_isDigit hd (ds ++ rest)
    simp only [readExponent, List.cons_append, hdigits, true_or, if_true, hsign, hspan, hvalue]
    congr 3
    rw [if_neg Bool.false_ne_true]
    omega

theorem le_ofDigitChars (ds : List Char) (n : Nat) : n ≤ Nat.ofDigitChars 10 ds n := by
  induction ds generalizing n with
  | nil => exact Nat.le_of_eq Nat.ofDigitChars_nil.symm
  | cons d ds ih =>
      rw [Nat.ofDigitChars_cons]
      have hrest := ih (10 * n + (d.toNat - '0'.toNat))
      omega

/-- Digits are read as far as they fit, so all of them if the number fits. -/
theorem takeFitting_eq {n : Nat} {ds : List Char} (h : Nat.ofDigitChars 10 ds n < UInt64.size) :
    takeFitting n ds = (Nat.ofDigitChars 10 ds n, []) := by
  induction ds generalizing n with
  | nil => rw [takeFitting, Nat.ofDigitChars_nil]
  | cons d ds ih =>
      have hfirst : Nat.ofDigitChars 10 [d] n = 10 * n + (d.toNat - '0'.toNat) := by
        rw [Nat.ofDigitChars_cons, Nat.ofDigitChars_nil]
      rw [Nat.ofDigitChars_cons] at h ⊢
      have hfits := Nat.lt_of_le_of_lt (le_ofDigitChars ds _) h
      simp only [takeFitting, hfirst, if_pos hfits, ih h]

theorem takeFitting_digits {n : Nat} (h : n < UInt64.size) : takeFitting 0 (digits n) = (n, []) := by
  have hvalue : Nat.ofDigitChars 10 (digits n) 0 = n := value_digits n
  rw [takeFitting_eq (by rw [hvalue]; exact h), hvalue]

theorem readNumber_digits (negative : Bool) (n : Nat) (h : Ends rest)
    (hrange : isWholeRange (if negative then -(n : Int) else n) = true) (hzero : ¬ (negative ∧ n = 0)) :
    readNumber negative (digits n ++ rest) =
      some (int (if negative then -(n : Int) else n), rest) := by
  have hzero' : ¬ (negative ∧ (if negative then -(n : Int) else n) = 0) := by
    rintro ⟨hnegative, hn⟩
    rw [if_pos hnegative] at hn
    exact hzero ⟨hnegative, by omega⟩
  simp only [readNumber, readWhole_digits n h.isDigit, readFraction_of_ends h, readExponent_of_ends h,
    Option.bind_eq_bind, Option.bind_some, value_digits]
  rw [if_pos ⟨trivial, trivial, hrange, hzero'⟩]
  rfl

theorem readNumber_decimal {d : Decimal} (hd : d.Stable) (h : Ends rest) :
    readNumber d.negative (digits d.significand ++ 'e' :: (signedDigits d.exponent ++ rest)) =
      some (real d, rest) := by
  have hwhole : readWhole (digits d.significand ++ 'e' :: (signedDigits d.exponent ++ rest)) =
      some (digits d.significand, 'e' :: (signedDigits d.exponent ++ rest)) :=
    readWhole_digits d.significand (by simp)
  have hfraction : readFraction ('e' :: (signedDigits d.exponent ++ rest)) =
      some ([], 'e' :: (signedDigits d.exponent ++ rest)) := rfl
  have hdecimal : decimalOfDigits d.negative (digits d.significand) [] d.exponent = d := by
    simp [decimalOfDigits, takeFitting_digits hd.1, takeFitting]
  simp only [readNumber, hwhole, hfraction, readExponent_signedDigits _ h, Option.bind_eq_bind,
    Option.bind_some, reduceCtorEq, false_and, and_false, if_false, Option.getD_some, hdecimal, hd.2]
  rfl

end

/-! ### Values -/

/-- Given fuel for it, the value is read back from what is written of it. -/
def ReadsBack (j : Json) : Prop :=
  ∀ fuel rest, j.write.length ≤ fuel → Ends rest →
    readValue (fuel + 1) (j.write ++ rest) = some (j, rest)

section
variable {fuel : Nat} {rest : List Char}

theorem ReadsBack.readValue_eq {j : Json} (h : ReadsBack j) (hfuel : j.write.length < fuel)
    (hends : Ends rest) : readValue fuel (j.write ++ rest) = some (j, rest) := by
  obtain ⟨fuel, rfl⟩ := Nat.exists_eq_add_one_of_ne_zero (Nat.ne_zero_of_lt hfuel)
  exact h fuel rest (Nat.le_of_lt_succ hfuel) hends

theorem isSpace_of_isDigit {c : Char} (h : c.isDigit = true) : isSpace c = false := by
  simp only [isSpace, Bool.or_eq_false_iff, decide_eq_false_iff_not]
  refine ⟨⟨⟨?_, ?_⟩, ?_⟩, ?_⟩ <;> rintro rfl <;> contradiction

theorem skipSpace_cons {c : Char} (hc : isSpace c = false) (cs : List Char) :
    skipSpace (c :: cs) = c :: cs :=
  List.dropWhile_cons_of_neg (by simp [hc])

theorem readValue_minus (cs : List Char) : readValue (fuel + 1) ('-' :: cs) = readNumber true cs := by
  rfl

theorem cons_ne_cons_of_isDigit {c d : Char} (hd : d.isDigit = true) (hc : c.isDigit = false)
    {cs ds : List Char} : d :: ds ≠ c :: cs := by
  intro h
  rw [(List.cons.inj h).1, hc] at hd
  contradiction

theorem readValue_digits (n : Nat) :
    readValue (fuel + 1) (digits n ++ rest) = readNumber false (digits n ++ rest) := by
  obtain ⟨d, ds, hdigits, hd⟩ := exists_digits_eq_cons n
  rw [hdigits, List.cons_append, readValue, skipSpace_cons (isSpace_of_isDigit hd)]
  split
  case h_8 => rfl
  all_goals
    rename_i heq
    exact absurd heq (cons_ne_cons_of_isDigit hd rfl)

theorem readsBack_int {n : Int} (hn : isWholeRange n = true) : ReadsBack (int n) := by
  intro fuel rest hfuel hends
  rw [write_int, signedDigits]
  split_ifs with hnegative
  · have habs : (if true then -(n.natAbs : Int) else n.natAbs) = n := by
      simp only [if_true]
      omega
    rw [List.cons_append, readValue_minus, readNumber_digits true n.natAbs hends, habs]
    · rw [habs]
      exact hn
    · omega
  · have habs : (n.natAbs : Int) = n := by omega
    rw [readValue_digits, readNumber_digits false n.natAbs hends]
    · simp [habs]
    · simp [habs, hn]
    · simp

theorem readsBack_real {d : Decimal} (hd : d.Stable) : ReadsBack (real d) := by
  intro fuel rest hfuel hends
  have hread := readNumber_decimal hd hends
  simp only [write_real, writeDecimal]
  split_ifs with hnegative
  · rw [hnegative] at hread
    rw [List.cons_append, readValue_minus, List.append_assoc, List.cons_append, hread]
  · rw [Bool.not_eq_true] at hnegative
    rw [hnegative] at hread
    rw [List.append_assoc, List.cons_append, readValue_digits, hread]

/-- No value starts with white space or with a closing bracket. -/
theorem exists_write_eq_cons (j : Json) :
    ∃ c cs, j.write = c :: cs ∧ isSpace c = false ∧ c ≠ ']' := by
  have hdigits (n : Nat) : ∃ c cs, digits n = c :: cs ∧ isSpace c = false ∧ c ≠ ']' := by
    obtain ⟨d, ds, hdigits, hd⟩ := exists_digits_eq_cons n
    refine ⟨d, ds, hdigits, isSpace_of_isDigit hd, ?_⟩
    rintro rfl
    contradiction
  cases j with
  | null => exact ⟨_, _, rfl, rfl, by decide⟩
  | bool b => cases b <;> exact ⟨_, _, rfl, rfl, by decide⟩
  | int n =>
      rw [write_int, signedDigits]
      split_ifs with hnegative
      · exact ⟨_, _, rfl, rfl, by decide⟩
      · exact hdigits _
  | real d =>
      simp only [write_real, writeDecimal]
      split_ifs with hnegative
      · exact ⟨_, _, rfl, rfl, by decide⟩
      · obtain ⟨c, cs, hcs, hc⟩ := hdigits d.significand
        exact ⟨c, _, by rw [hcs, List.cons_append], hc⟩
  | text s => exact ⟨_, _, rfl, rfl, by decide⟩
  | list items => exact ⟨_, _, rfl, rfl, by decide⟩
  | record members => exact ⟨_, _, rfl, rfl, by decide⟩

theorem readsBack_text (s : String) : ReadsBack (text s) := by
  intro fuel rest hfuel hends
  simp only [write_text, quote, List.cons_append, List.append_assoc, List.nil_append]
  change (readText (s.toList.flatMap escapeChar ++ '"' :: rest)).map _ = _
  rw [readText_flatMap_escapeChar]
  simp

/-! ### Lists and records -/

theorem readItems_writeItems {items : List Json} (hne : items ≠ []) (hread : ∀ j ∈ items, ReadsBack j)
    (hfuel : (writeItems items).length + 1 < fuel) :
    readItems fuel (writeItems items ++ ']' :: rest) = some (items, rest) := by
  induction items generalizing fuel with
  | nil => contradiction
  | cons j js ih =>
      obtain ⟨fuel, rfl⟩ := Nat.exists_eq_add_one_of_ne_zero (Nat.ne_zero_of_lt hfuel)
      have hj : ReadsBack j := hread j (List.mem_cons_self ..)
      cases js with
      | nil =>
          rw [writeItems_singleton] at hfuel ⊢
          have hclose : skipSpace (']' :: rest) = ']' :: rest := skipSpace_cons rfl rest
          rw [readItems, hj.readValue_eq (by omega) (by simp [Ends])]
          simp only [hclose]
      | cons j' js =>
          rw [writeItems_cons, List.length_append, List.length_cons] at hfuel
          have hjs : readItems fuel (writeItems (j' :: js) ++ ']' :: rest) = some (j' :: js, rest) :=
            ih (List.cons_ne_nil j' js) (fun i hi => hread i (List.mem_cons_of_mem j hi)) (by omega)
          have hcomma (cs : List Char) : skipSpace (',' :: cs) = ',' :: cs := skipSpace_cons rfl cs
          rw [writeItems_cons, List.append_assoc, List.cons_append, readItems,
            hj.readValue_eq (by omega) (by simp [Ends])]
          simp only [hcomma, hjs, Option.map_some]

theorem readValue_bracket {c : Char} (hspace : isSpace c = false) (hc : c ≠ ']') (cs : List Char) :
    readValue (fuel + 1) ('[' :: c :: cs) =
      (readItems fuel (c :: cs)).map fun (js, r) => (list js, r) := by
  have hbracket (cs : List Char) : skipSpace ('[' :: cs) = '[' :: cs := skipSpace_cons rfl cs
  rw [readValue, hbracket]
  simp only [skipSpace_cons hspace]
  split
  · rename_i heq
    exact absurd (List.cons.inj heq).1 hc
  · rfl

theorem readsBack_list {items : List Json} (hread : ∀ j ∈ items, ReadsBack j) : ReadsBack (list items) := by
  intro fuel rest hfuel hends
  simp only [write_list, List.cons_append, List.append_assoc, List.nil_append, List.length_cons,
    List.length_append, List.length_nil] at hfuel ⊢
  cases items with
  | nil => rfl
  | cons j js =>
      have hitems : readItems fuel (writeItems (j :: js) ++ ']' :: rest) = some (j :: js, rest) :=
        readItems_writeItems (List.cons_ne_nil j js) hread (by omega)
      obtain ⟨c, cs, hwrite, hspace, hclose⟩ : ∃ c cs, writeItems (j :: js) = c :: cs ∧
          isSpace c = false ∧ c ≠ ']' := by
        obtain ⟨c, cs, hwrite, hc⟩ := exists_write_eq_cons j
        cases js with
        | nil => exact ⟨c, cs, by rw [writeItems_singleton, hwrite], hc⟩
        | cons j' js => exact ⟨c, _, by rw [writeItems_cons, hwrite, List.cons_append], hc⟩
      rw [hwrite, List.cons_append] at hitems ⊢
      rw [readValue_bracket hspace hclose, hitems, Option.map_some]

theorem setMember_of_not_mem {name : String} {members : List (String × Json)}
    (h : name ∉ members.map Prod.fst) (value : Json) :
    setMember name value members = members ++ [(name, value)] := by
  induction members with
  | nil => rfl
  | cons m members ih =>
      rw [List.map_cons, List.mem_cons, not_or] at h
      rw [setMember, if_neg (Ne.symm h.1), ih h.2, List.cons_append]

/-- A member with a new name is read and kept; the mark behind it says whether more follow. -/
theorem readMembers_step {done : List (String × Json)} {name : String} {value : Json}
    (hnew : name ∉ done.map Prod.fst) (hread : ReadsBack value) (hfuel : value.write.length < fuel) :
    readMembers (fuel + 1) done (quote name ++ ':' :: (value.write ++ ',' :: rest)) =
        readMembers fuel (done ++ [(name, value)]) rest ∧
      readMembers (fuel + 1) done (quote name ++ ':' :: (value.write ++ '\x7d' :: rest)) =
        some (done ++ [(name, value)], rest) := by
  have hquote (cs : List Char) : skipSpace ('"' :: cs) = '"' :: cs := skipSpace_cons rfl cs
  have hcolon (cs : List Char) : skipSpace (':' :: cs) = ':' :: cs := skipSpace_cons rfl cs
  have hcomma : skipSpace (',' :: rest) = ',' :: rest := skipSpace_cons rfl rest
  have hclose : skipSpace ('\x7d' :: rest) = '\x7d' :: rest := skipSpace_cons rfl rest
  have hset := setMember_of_not_mem hnew value
  simp only [quote, List.cons_append, List.append_assoc, List.nil_append]
  constructor
  · have hvalue : readValue fuel (value.write ++ ',' :: rest) = some (value, ',' :: rest) :=
      hread.readValue_eq hfuel (by simp [Ends])
    rw [readMembers, hquote]
    simp only [readText_flatMap_escapeChar, hcolon, hvalue, hcomma, String.ofList_toList, hset]
  · have hvalue : readValue fuel (value.write ++ '\x7d' :: rest) = some (value, '\x7d' :: rest) :=
      hread.readValue_eq hfuel (by simp [Ends])
    rw [readMembers, hquote]
    simp only [readText_flatMap_escapeChar, hcolon, hvalue, hclose, String.ofList_toList, hset]

theorem readMembers_writeMembers {done members : List (String × Json)} (hne : members ≠ [])
    (hnames : ((done ++ members).map Prod.fst).Nodup) (hread : ∀ m ∈ members, ReadsBack m.2)
    (hfuel : (writeMembers members).length + 1 < fuel) :
    readMembers fuel done (writeMembers members ++ '\x7d' :: rest) = some (done ++ members, rest) := by
  induction members generalizing fuel done with
  | nil => contradiction
  | cons m ms ih =>
      obtain ⟨fuel, rfl⟩ := Nat.exists_eq_add_one_of_ne_zero (Nat.ne_zero_of_lt hfuel)
      have hm : ReadsBack m.2 := hread m (List.mem_cons_self ..)
      have hnew : m.1 ∉ done.map Prod.fst := by
        rw [List.map_append, List.map_cons, List.nodup_append] at hnames
        exact fun hdone => hnames.2.2 _ hdone _ (List.mem_cons_self ..) rfl
      cases ms with
      | nil =>
          rw [writeMembers_singleton, List.length_append, List.length_cons] at hfuel
          rw [writeMembers_singleton, List.append_assoc, List.cons_append,
            (readMembers_step hnew hm (by omega)).2]
      | cons m' ms =>
          rw [writeMembers_cons] at hfuel
          simp only [List.length_append, List.length_cons] at hfuel
          have hms : readMembers fuel (done ++ [m]) (writeMembers (m' :: ms) ++ '\x7d' :: rest) =
              some (done ++ [m] ++ m' :: ms, rest) :=
            ih (List.cons_ne_nil m' ms)
              (by simpa only [List.append_assoc, List.singleton_append] using hnames)
              (fun i hi => hread i (List.mem_cons_of_mem m hi)) (by omega)
          rw [writeMembers_cons]
          simp only [List.append_assoc, List.cons_append]
          rw [(readMembers_step hnew hm (by omega)).1]
          refine hms.trans ?_
          rw [List.append_assoc, List.singleton_append]

theorem readValue_brace (cs : List Char) :
    readValue (fuel + 1) ('\x7b' :: '"' :: cs) =
      (readMembers fuel [] ('"' :: cs)).map fun (ms, r) => (record ms, r) := by
  rfl

theorem readsBack_record {members : List (String × Json)} (hnames : (members.map Prod.fst).Nodup)
    (hread : ∀ m ∈ members, ReadsBack m.2) : ReadsBack (record members) := by
  intro fuel rest hfuel hends
  simp only [write_record, List.cons_append, List.append_assoc, List.nil_append, List.length_cons,
    List.length_append, List.length_nil] at hfuel ⊢
  cases members with
  | nil => rfl
  | cons m ms =>
      have hmembers : readMembers fuel [] (writeMembers (m :: ms) ++ '\x7d' :: rest) =
          some ([] ++ m :: ms, rest) :=
        readMembers_writeMembers (List.cons_ne_nil m ms) hnames hread (by omega)
      obtain ⟨cs, hwrite⟩ : ∃ cs, writeMembers (m :: ms) = '"' :: cs := by
        cases ms with
        | nil => exact ⟨_, rfl⟩
        | cons m' ms => exact ⟨_, rfl⟩
      rw [hwrite, List.cons_append] at hmembers ⊢
      rw [readValue_brace, hmembers, Option.map_some, List.nil_append]

end

theorem Legible.readsBack {j : Json} (h : Legible j) : ReadsBack j := by
  induction h with
  | null =>
      intro fuel rest hfuel hends
      rfl
  | bool b =>
      intro fuel rest hfuel hends
      cases b <;> rfl
  | int hn => exact readsBack_int hn
  | real hd => exact readsBack_real hd
  | text s => exact readsBack_text s
  | list _ ih => exact readsBack_list ih
  | record hnames _ ih => exact readsBack_record hnames ih

/-- A legible value is read back from its text. -/
theorem parse_render {j : Json} (h : Legible j) : parse j.render = some j := by
  have hread := h.readsBack j.write.length [] (Nat.le_refl _) (by simp [Ends])
  rw [List.append_nil] at hread
  simp [parse, render, hread, skipSpace]

end Json
end HotelBooking
