import HotelBooking.Proofs.Frame
import HotelBooking.Proofs.Reservations
import HotelBooking.Proofs.Session

/-!
# One guest at a time

Whatever happens in a session, no two stored reservations claim one room at the same time. A new
reservation is stored only if the room is free during its whole stay, under an identifier that is
not taken; every later form of it has the same room and stay, and a cancelled one does not come
back. Failed operations that have stored something are no exception.
-/

namespace HotelBooking

open HotelBooking.Action

namespace Reservation

theorem conflicts_iff {r t : Reservation} : r.conflicts t = true ↔
    r.roomId = t.roomId ∧ r.holdsRoom = true ∧ t.holdsRoom = true ∧
      r.stay.overlaps t.stay = true := by
  simp only [conflicts, Bool.and_eq_true, decide_eq_true_eq, and_assoc]

theorem conflicts_symm {r t : Reservation} (h : r.conflicts t = true) : t.conflicts r = true := by
  obtain ⟨hroom, hr, ht, hstay⟩ := conflicts_iff.mp h
  exact conflicts_iff.mpr ⟨hroom.symm, ht, hr, (Stay.overlaps_comm t.stay r.stay).trans hstay⟩

/-- A later form of a reservation is in nobody's way that the earlier one was not in. -/
theorem Becomes.conflicts {r r' t : Reservation} (h : r.Becomes r') (hc : r'.conflicts t = true) :
    r.conflicts t = true := by
  obtain ⟨hroom, hr, ht, hstay⟩ := conflicts_iff.mp hc
  exact conflicts_iff.mpr ⟨h.roomId ▸ hroom, h.holdsRoom hr, ht, h.stay ▸ hstay⟩

end Reservation

namespace Hotel

/-- A new reservation for a room that is free during its stay is in nobody's way. -/
theorem fresh_not_conflicts {s : Hotel} {now : Instant} {order : ReservationOrder}
    (hfree : s.blocking order.roomId order.stay = []) {key : String} {t : Reservation}
    (ht : s.reservations.entries[key]? = some t) :
    ¬ (Reservation.fresh now order).conflicts t = true := by
  intro hc
  obtain ⟨hroom, -, hholds, hstay⟩ := Reservation.conflicts_iff.mp hc
  have hblocks : t.blocks order.roomId order.stay = true := by
    have hover : t.stay.overlaps order.stay = true :=
      (Stay.overlaps_comm t.stay order.stay).trans hstay
    simp only [Reservation.blocks, hholds, hover, Bool.and_true, decide_eq_true_eq]
    exact hroom.symm
  exact blocking_eq_nil_iff.mp hfree key t ht hblocks

/-- Reservations are stored under their own identifiers and keep out of each other's way. -/
structure RoomsExclusive (s : Hotel) : Prop where
  id_text : ∀ {key : String} {r}, s.reservations.entries[key]? = some r → r.id.text = key
  not_conflicts : ∀ {key other : String} {r t}, s.reservations.entries[key]? = some r →
    s.reservations.entries[other]? = some t → key ≠ other → ¬ r.conflicts t = true

namespace RoomsExclusive

variable {s t : Hotel}

theorem of_entries_eq (h : s.RoomsExclusive)
    (ht : t.reservations.entries = s.reservations.entries) : t.RoomsExclusive := by
  constructor
  · rw [ht]
    exact h.id_text
  · rw [ht]
    exact h.not_conflicts

theorem insert (h : s.RoomsExclusive) {id : ReservationId} {r : Reservation} (hid : r.id = id)
    (hr : ∀ (key : String) u, key ≠ id.text → s.reservations.entries[key]? = some u →
      ¬ r.conflicts u = true)
    (ht : t.reservations = s.reservations.insert id.text r) : t.RoomsExclusive := by
  have hget (key : String) : t.reservations.entries[key]? =
      if id.text = key then some r else s.reservations.entries[key]? := by
    rw [ht, Table.getElem?_insert]
  constructor
  · intro key u hu
    rw [hget] at hu
    split_ifs at hu with hkey
    · cases hu
      rw [hid, hkey]
    · exact h.id_text hu
  · intro key other u v hu hv hne
    rw [hget] at hu hv
    split_ifs at hu hv with hkey hother hother
    · exact absurd (hkey.symm.trans hother) hne
    · cases hu
      exact hr other v (fun he => hother he.symm) hv
    · cases hv
      exact fun hc => hr key u (fun he => hkey he.symm) hu (Reservation.conflicts_symm hc)
    · exact h.not_conflicts hu hv hne

theorem empty : Hotel.empty.RoomsExclusive := by
  have hnone (key : String) : Hotel.empty.reservations.entries[key]? = none := by
    simp [Hotel.empty]
  constructor
  · intro key r hr
    rw [hnone] at hr
    contradiction
  · intro key other r t hr
    rw [hnone] at hr
    contradiction

theorem create_moves (now : Instant) (order : ReservationOrder) :
    (Reservations.create now order : Action Hotel _ _).Moves (Preserved RoomsExclusive) := by
  intro s h
  rcases Reservations.create_reservations now s order with hs | ⟨hfree, -, hs⟩
  · exact h.of_entries_eq (congrArg Table.entries hs)
  · exact h.insert rfl (fun key u _ hu => fresh_not_conflicts hfree hu) hs

theorem modify_moves (now : Instant) (id : ReservationId)
    {f : Reservation → Except ReservationError Reservation} (event : Reservation → ReservationEvent)
    (hf : ∀ r r', f r = .ok r' → r.Becomes r') :
    (Reservations.modify now id f event : Action Hotel _ _).Moves (Preserved RoomsExclusive) := by
  intro s h
  rcases Reservations.modify_reservations now s id event hf with hs | ⟨r, r', hr, hb, hs⟩
  · exact h.of_entries_eq (congrArg Table.entries hs)
  · refine h.insert ?_ ?_ hs
    · have hid : r.id.text = id.text := h.id_text hr
      rw [hb.id]
      cases hi : r.id
      cases id
      simpa [hi] using hid
    · intro key u hne hu hc
      exact h.not_conflicts hr hu (Ne.symm hne) (hb.conflicts hc)

end RoomsExclusive

/-- No service makes two reservations get in each other's way. -/
theorem services_keep_roomsExclusive : Booking.ServicesMove (Preserved RoomsExclusive) := by
  have hpayments : Backend.PaymentsMove (Preserved RoomsExclusive) :=
    paymentsMove_of (fun _ _ _ h => h.of_entries_eq rfl) (fun _ _ _ _ _ h => h.of_entries_eq rfl)
      (fun _ _ h => h.of_entries_eq rfl) (fun _ _ h => h.of_entries_eq rfl)
  have hrecords := hpayments.toPaymentRecordsMove
  have hnotices (notice : Except NoticeError Notice) :
      (onNotifier (Notifier.send notice)).Moves (Preserved RoomsExclusive) :=
    onNotifier_send_moves (fun _ _ _ h => h.of_entries_eq rfl) notice
  exact {
    createReservation := RoomsExclusive.create_moves
    changeReservation := fun now c id =>
      RoomsExclusive.modify_moves now id _ fun _ _ => Reservation.Becomes.of_change
    cancelReservation := fun now id reason =>
      RoomsExclusive.modify_moves now id _ fun _ _ => Reservation.Becomes.of_cancel
    getReservation := fun id => (readReservation_moves id).mapError _
    listByGuest := fun _ => Moves.bind (fun _ => id) fun _ => .pure _
    getPayment := Payments.get_moves hrecords
    authorize := fun now => Payments.authorize_moves now hrecords hpayments.authorize
    retryAuthorization := fun now => Payments.retryAuthorization_moves now hrecords hpayments.authorize
    capture := fun now => Payments.capture_moves now hrecords hpayments.capture
    refund := fun now => Payments.refund_moves now hrecords hpayments.refund
    sendConfirmation := fun _ => hnotices _
    sendCancellation := fun _ _ => hnotices _
    count := hpayments.count }

end Hotel

namespace Session

theorem run_roomsExclusive (now : Instant) (events : List Event) :
    ((start now).run events).hotel.RoomsExclusive :=
  run_moves Hotel.services_keep_roomsExclusive (fun _ h => h.of_entries_eq rfl)
    (fun _ _ h => h.of_entries_eq rfl) (start now) events Hotel.RoomsExclusive.empty

/-- However a session went on, two different reservations do not claim one room at one time. -/
theorem rooms_not_double_booked (now : Instant) (events : List Event) {r t : Reservation}
    (hr : r ∈ ((start now).run events).hotel.reservations.values)
    (ht : t ∈ ((start now).run events).hotel.reservations.values) (hne : r.id ≠ t.id) :
    r.conflicts t = false := by
  have h := run_roomsExclusive now events
  obtain ⟨key, hkey⟩ := Table.mem_values_iff.mp hr
  obtain ⟨other, hother⟩ := Table.mem_values_iff.mp ht
  refine Bool.eq_false_iff.mpr (h.not_conflicts hkey hother ?_)
  rintro rfl
  exact hne (congrArg Reservation.id (Option.some.inj (hkey.symm.trans hother)))

open Sample

/-- The first reservation is stored but cannot be announced, the second overlaps it and is refused,
and the third, from the day on which the first one ends, is booked and paid for. -/
def turnover : List Event :=
  [.setOutages { topics := {"reservation.created"} },
    .call (.createReservation (order "res-1" 3 5)),
    .setOutages {},
    .call (.createReservation (order "res-2" 4 6)),
    .call (.complete ⟨order "res-3" 5 7, ⟨"pay-3"⟩, "card"⟩)]

set_option maxRecDepth 10000 in
theorem turnover_not_double_booked :
    let first := Reservation.fresh (day 1) (order "res-1" 3 5)
    let third := { Reservation.fresh (day 1) (order "res-3" 5 7) with status := .confirmed }
    first ∈ ((start (day 1)).run turnover).hotel.reservations.values ∧
      third ∈ ((start (day 1)).run turnover).hotel.reservations.values ∧
        first.conflicts third = false := by
  have hfirst : Reservation.fresh (day 1) (order "res-1" 3 5) ∈
      ((start (day 1)).run turnover).hotel.reservations.values := by decide +kernel
  have hthird : { Reservation.fresh (day 1) (order "res-3" 5 7) with status := .confirmed } ∈
      ((start (day 1)).run turnover).hotel.reservations.values := by decide +kernel
  exact ⟨hfirst, hthird, rooms_not_double_booked (day 1) turnover hfirst hthird (by decide)⟩

end Session
end HotelBooking
