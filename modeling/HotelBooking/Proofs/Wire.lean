import HotelBooking.Proofs.Decoding
import HotelBooking.Proofs.JsonText
import Mathlib.Data.Fintype.Basic

/-!
# What is stored or sent comes back

Reservations, payments and sent envelopes are read back from their JSON as they were written, and from its
text as well (`read_written`). An envelope carries whatever payload it was given, so its text can be read
back only as far as that of its payload can.
-/

namespace HotelBooking

open Json (required optional Legible)

/-! ### From JSON values -/

namespace Json

theorem optional_optText (s : Option String) : optional text? (some (optText s)) = some s := by
  cases s <;> rfl

theorem list?_map {α : Type} {read : Json → Option α} {write : α → Json}
    (h : ∀ a, read (write a) = some a) (as : List α) : list? read (list (as.map write)) = some as := by
  rw [list?]
  induction as with
  | nil => rfl
  | cons a as ih => rw [List.map_cons, List.mapM_cons, h, ih]; rfl

end Json

theorem Guest.ofJson?_toJson (g : Guest) : ofJson? g.toJson = some g := by
  simp [toJson, ofJson?, Json.fields?, List.lookup_cons, required, Json.text?]

theorem ReservationStatus.ofJson?_toJson (s : ReservationStatus) : ofJson? s.toJson = some s := by
  cases s <;> decide

theorem PaymentStatus.ofJson?_toJson (s : PaymentStatus) : ofJson? s.toJson = some s := by
  cases s <;> decide

theorem Reservation.ofJson?_toJson (r : Reservation) : ofJson? r.toJson = some r := by
  have hguests := Json.list?_map Guest.ofJson?_toJson r.guests
  have hreason := Json.optional_optText r.cancellationReason
  simp [toJson, ofJson?, Json.fields?, List.lookup_cons, required, ReservationStatus.ofJson?_toJson,
    hguests, hreason]

theorem PaymentAttempt.ofJson?_toJson (a : PaymentAttempt) : ofJson? a.toJson = some a := by
  simp [toJson, ofJson?, Json.fields?, List.lookup_cons, required, PaymentStatus.ofJson?_toJson,
    Json.optional_optText]

theorem Payment.ofJson?_toJson (p : Payment) : ofJson? p.toJson = some p := by
  have hattempts := Json.list?_map PaymentAttempt.ofJson?_toJson p.attempts
  have htransaction := Json.optional_optText p.transactionId
  simp [toJson, ofJson?, Json.fields?, List.lookup_cons, required, PaymentStatus.ofJson?_toJson,
    Json.text?, hattempts, htransaction]

namespace Uuid

theorem hexValue_hexDigit (d : Fin 16) : Json.hexValue (Json.hexDigit d.val) = some d.val := by
  revert d
  decide

/-- A digit is no mark in front of an identifier. -/
theorem hexDigit_ne (d : Fin 16) :
    Json.hexDigit d.val ≠ '\x7b' ∧ (Json.hexDigit d.val).toLower ≠ 'u' := by
  revert d
  decide

theorem ofDigits?_map (u : Uuid) : ofDigits? (u.digits.map fun d => Json.hexDigit d.val) = some u := by
  have hread (ds : List (Fin 16)) : (ds.map fun d => Json.hexDigit d.val).mapM
      (fun c => (Json.hexValue c).map (Fin.ofNat 16)) = some ds := by
    induction ds with
    | nil => rfl
    | cons d ds ih =>
        rw [List.map_cons, List.mapM_cons, hexValue_hexDigit, ih]
        simp
  rw [ofDigits?, hread, Option.bind_eq_bind, Option.bind_some, dif_pos u.length_digits]
  rfl

theorem splitGroups_append {α : Type} {n : Nat} {ns : List Nat} {xs : List α} (h : xs.length = n)
    (ys : List α) : splitGroups (n :: ns) (xs ++ ys) = xs :: splitGroups ns ys := by
  rw [splitGroups, List.take_left' h, List.drop_left' h]

theorem splitGroups_singleton {α : Type} {n : Nat} {xs : List α} (h : xs.length = n) :
    splitGroups [n] xs = [xs] := by
  rw [splitGroups, splitGroups, List.take_of_length_le (Nat.le_of_eq h)]

theorem exists_groups {α : Type} {xs : List α} (h : xs.length = 32) :
    ∃ a b c d e : List α, xs = a ++ (b ++ (c ++ (d ++ e))) ∧ a.length = 8 ∧ b.length = 4 ∧
      c.length = 4 ∧ d.length = 4 ∧ e.length = 12 := by
  refine ⟨xs.take 8, (xs.drop 8).take 4, ((xs.drop 8).drop 4).take 4,
    (((xs.drop 8).drop 4).drop 4).take 4, (((xs.drop 8).drop 4).drop 4).drop 4, ?_, ?_, ?_, ?_, ?_, ?_⟩
  · simp only [List.take_append_drop]
  all_goals
    simp only [List.length_take, List.length_drop]
    omega

/-- The groups with their hyphens are as long as they should be, and are taken apart again. -/
theorem join_groups {cs : List Char} (h : cs.length = 32) :
    let text := ['-'].intercalate (splitGroups groupLengths cs)
    text.length = 36 ∧ text.head? = cs.head? ∧ ofHyphenated? text = ofDigits? cs := by
  obtain ⟨a, b, c, d, e, rfl, ha, hb, hc, hd, he⟩ := exists_groups h
  have hgroups : splitGroups groupLengths (a ++ (b ++ (c ++ (d ++ e)))) = [a, b, c, d, e] := by
    rw [groupLengths, splitGroups_append ha, splitGroups_append hb, splitGroups_append hc,
      splitGroups_append hd, splitGroups_singleton he]
  have hjoined : ['-'].intercalate [a, b, c, d, e] =
      a ++ (['-'] ++ (b ++ (['-'] ++ (c ++ (['-'] ++ (d ++ (['-'] ++ e))))))) := by
    simp [List.intercalate]
  have hlength : (['-'].intercalate [a, b, c, d, e]).length = 36 := by
    rw [hjoined]
    simp only [List.length_append, List.length_singleton, ha, hb, hc, hd, he]
  intro text
  simp only [text, hgroups]
  refine ⟨hlength, ?_, ?_⟩
  · obtain ⟨x, xs, rfl⟩ := List.exists_cons_of_length_pos (show 0 < a.length by omega)
    rw [hjoined]
    rfl
  · have hmark : ['-'].length = 1 := rfl
    rw [ofHyphenated?, hlength, hjoined, splitGroups_append ha, splitGroups_append hmark,
      splitGroups_append hb, splitGroups_append hmark, splitGroups_append hc, splitGroups_append hmark,
      splitGroups_append hd, splitGroups_append hmark, splitGroups_singleton he]
    simp only [if_true, List.append_assoc]

/-- The text starts with a digit, so it is read as five groups. -/
theorem ofText?_toText (u : Uuid) : ofText? u.toText = some u := by
  have hlength : (u.digits.map fun d => Json.hexDigit d.val).length = 32 := by
    rw [List.length_map, u.length_digits]
  obtain ⟨htext, hhead, hread⟩ := join_groups hlength
  rw [u.ofDigits?_map] at hread
  rw [toText, ofText?, String.toList_ofList]
  generalize ['-'].intercalate _ = text at *
  obtain ⟨d, ds, hdigits⟩ := List.exists_cons_of_length_pos (by rw [u.length_digits]; decide)
  obtain ⟨cs, rfl⟩ : ∃ cs, text = Json.hexDigit d.val :: cs := by
    rw [hdigits, List.map_cons, List.head?_cons] at hhead
    exact List.head?_eq_some_iff.mp hhead
  obtain ⟨hbrace, hu⟩ := hexDigit_ne d
  have hurn : ((Json.hexDigit d.val :: cs).take 9).map Char.toLower ≠ urnStart := by
    rw [List.take_succ_cons, List.map_cons, urnStart]
    exact fun h => hu (List.cons.inj h).1
  split
  · rename_i heq
    exact absurd (List.cons.inj heq).1 hbrace
  · rw [if_neg hurn, if_neg (by omega), hread]

end Uuid

theorem SentEnvelope.ofJson?_toJson (e : SentEnvelope) : ofJson? e.toJson = some e := by
  have hid := Uuid.ofText?_toText e.id
  simp [toJson, ofJson?, Envelope.members, Json.fields?, List.lookup_cons, required, Json.text?, hid]

/-! ### From text -/

namespace Json

theorem legible_optText (s : Option String) : Legible (optText s) := by
  cases s with
  | none => exact .null
  | some s => exact .text s

theorem legible_list_map {α : Type} {write : α → Json} (h : ∀ a, Legible (write a)) (as : List α) :
    Legible (list (as.map write)) := by
  refine .list fun j hj => ?_
  obtain ⟨a, -, rfl⟩ := List.mem_map.mp hj
  exact h a

end Json

theorem Money.legible_toJson (m : Money) : Legible m.toJson := by
  have hrange : Json.isWholeRange m.amount.toInt = true := by
    have hmin := Int64.minValue_le_toInt m.amount
    have hmax := Int64.toInt_lt m.amount
    simp only [Json.isWholeRange, Bool.and_eq_true, decide_eq_true_eq]
    refine ⟨hmin, ?_⟩
    simp only [UInt64.size]
    omega
  refine .record (by simp) ?_
  simp [Legible.int hrange, Legible.text]

theorem Stay.legible_toJson (s : Stay) : Legible s.toJson := by
  refine .record (by simp) ?_
  simp [Instant.toJson, Legible.text]

theorem Guest.legible_toJson (g : Guest) : Legible g.toJson := by
  refine .record (by simp) ?_
  simp [Legible.text]

theorem Reservation.legible_toJson (r : Reservation) : Legible r.toJson := by
  refine .record (by simp) ?_
  simp [ReservationId.toJson, GuestId.toJson, RoomId.toJson, ReservationStatus.toJson, Instant.toJson,
    Legible.text, Stay.legible_toJson, Money.legible_toJson, Json.legible_optText,
    Json.legible_list_map Guest.legible_toJson]

theorem PaymentAttempt.legible_toJson (a : PaymentAttempt) : Legible a.toJson := by
  refine .record (by simp) ?_
  simp [PaymentStatus.toJson, Instant.toJson, Legible.text, Json.legible_optText]

theorem Payment.legible_toJson (p : Payment) : Legible p.toJson := by
  refine .record (by simp) ?_
  simp [PaymentId.toJson, ReservationId.toJson, PaymentStatus.toJson, Instant.toJson, Legible.text,
    Money.legible_toJson, Json.legible_optText, Json.legible_list_map PaymentAttempt.legible_toJson]

theorem SentEnvelope.legible_toJson {e : SentEnvelope} (h : Legible e.payload) : Legible e.toJson := by
  refine .record (by simp [Envelope.members]) ?_
  simp [Envelope.members, Instant.toJson, Legible.text, h]

/-- Every reservation, payment and sent envelope comes back as it was, whatever its history. -/
theorem read_written :
    (∀ r : Reservation, Reservation.ofJson? r.toJson = some r ∧
        (Json.parse r.toJson.render).bind Reservation.ofJson? = some r) ∧
      (∀ p : Payment, Payment.ofJson? p.toJson = some p ∧
        (Json.parse p.toJson.render).bind Payment.ofJson? = some p) ∧
      ∀ e : SentEnvelope, SentEnvelope.ofJson? e.toJson = some e ∧
        (Legible e.payload → (Json.parse e.toJson.render).bind SentEnvelope.ofJson? = some e) := by
  refine ⟨fun r => ⟨r.ofJson?_toJson, ?_⟩, fun p => ⟨p.ofJson?_toJson, ?_⟩,
    fun e => ⟨e.ofJson?_toJson, fun h => ?_⟩⟩
  · rw [Json.parse_render r.legible_toJson, Option.bind_some, r.ofJson?_toJson]
  · rw [Json.parse_render p.legible_toJson, Option.bind_some, p.ofJson?_toJson]
  · rw [Json.parse_render (SentEnvelope.legible_toJson h), Option.bind_some, e.ofJson?_toJson]

/-- Sent in the leap second before 1970, with a payload that needs escapes and large numbers. -/
def Sample.sentNote : SentEnvelope where
  id := .ofNat 81985529216486895
  topic := "guest.note"
  aggregateId := "guest-1"
  aggregateType := "Guest"
  time := ⟨-1, 1500000000, by decide, by decide, by decide, by decide⟩
  payload := .record [("note", .text "straße\n\"😀\""), ("rooms", .list [.int (-1), .null, .int 18446744073709551615])]

theorem Sample.sentNote_read_written :
    Legible sentNote.payload ∧
      (Json.parse sentNote.toJson.render).bind SentEnvelope.ofJson? = some sentNote := by
  have hrange : Json.isWholeRange (-1) = true ∧ Json.isWholeRange 18446744073709551615 = true := by decide
  have hlegible : Legible sentNote.payload := by
    refine .record (by simp) ?_
    simp only [List.forall_mem_cons, List.not_mem_nil, false_implies, implies_true, and_true]
    refine ⟨.text _, .list ?_⟩
    simp only [List.forall_mem_cons, List.not_mem_nil, false_implies, implies_true, and_true]
    exact ⟨.int hrange.1, .null, .int hrange.2⟩
  obtain ⟨-, -, henvelope⟩ := read_written
  exact ⟨hlegible, (henvelope sentNote).2 hlegible⟩

end HotelBooking
