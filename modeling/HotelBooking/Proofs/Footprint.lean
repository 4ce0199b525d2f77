import HotelBooking.Proofs.Compensation
import HotelBooking.Proofs.Growth
import HotelBooking.Proofs.Pump

/-!
# What a booking touches

A booking works on the reservation and the payment that it was ordered with. It only ever changes what it
has made itself: if there is something under one of the identifiers already, the step that would make it
fails, and neither a later step nor a compensation gets to change it. So whatever was there before is there
afterwards, too, and all that is new belongs to the booking (`Booking.complete_within`).
-/

namespace HotelBooking

open HotelBooking.Action

/-- The envelope is about the reservation or the payment of the order. -/
def BookingOrder.Names (order : BookingOrder) (e : Envelope) : Prop :=
  e.aggregateType = "Reservation" ∧ e.aggregateId = order.reservation.reservationId.text ∨
    e.aggregateType = "Payment" ∧ e.aggregateId = order.paymentId.text

namespace BookingOrder

variable (now : Instant) {order : BookingOrder}

theorem names_reservation {event : ReservationEvent}
    (h : event.reservationId = order.reservation.reservationId) : order.Names (event.toEnvelope now) :=
  .inl ⟨rfl, congrArg ReservationId.text h⟩

theorem names_payment {event : PaymentEvent} (h : event.paymentId = order.paymentId) :
    order.Names (event.toEnvelope now) :=
  .inr ⟨rfl, congrArg PaymentId.text h⟩

end BookingOrder

namespace Booking

/-- From the first system to the second, a booking of `order` has touched nothing but what is its own: the
reservation and the payment that it has made, the transaction of this payment, and the log, to whose end it
has put what it announced about them. -/
structure Within (now : Instant) (order : BookingOrder) (s t : Hotel) : Prop where
  reservation : ∀ id, t.reservation? id = s.reservation? id ∨
    id = order.reservation.reservationId ∧ s.reservation? id = none ∧
      ∃ r, t.reservation? id = some r ∧ (order.pendingReservation now).Becomes r
  payment : ∀ id, t.payment? id = s.payment? id ∨ id = order.paymentId ∧ s.payment? id = none ∧
    ∃ p, t.payment? id = some p ∧ (Payment.make now order.payment).Becomes p
  transaction : ∀ id, id ≠ order.transactionId →
    t.gateway.transactions[id]? = s.gateway.transactions[id]?
  log : ∃ es, t.log = s.log.appendAll es ∧ ∀ e ∈ es, order.Names e

/-- What others have in the first system they have in the second: all that is stored stays as it is, even if
it is stored under the identifiers of the order. At most one reservation and one payment are new, and they
have these identifiers; no transaction but that of the payment is different; and what was published comes
after what was published before, and is about the reservation or the payment. -/
structure LeavesOthers (order : BookingOrder) (s t : Hotel) : Prop where
  reservation : ∀ id r, s.reservation? id = some r → t.reservation? id = some r
  payment : ∀ id p, s.payment? id = some p → t.payment? id = some p
  newReservation : ∀ id, s.reservation? id = none → t.reservation? id ≠ none →
    id = order.reservation.reservationId
  newPayment : ∀ id, s.payment? id = none → t.payment? id ≠ none → id = order.paymentId
  transaction : ∀ id, id ≠ order.transactionId →
    t.gateway.transactions[id]? = s.gateway.transactions[id]?
  log : ∃ es, t.log = s.log.appendAll es ∧ ∀ e ∈ es, order.Names e

namespace Within

variable {now : Instant} {order : BookingOrder} {s t : Hotel}

protected theorem refl (now : Instant) (order : BookingOrder) (s : Hotel) : Within now order s s where
  reservation _ := .inl rfl
  payment _ := .inl rfl
  transaction _ _ := rfl
  log := ⟨[], (EventLog.appendAll_nil _).symm, by simp⟩

theorem counted (h : Within now order s t) (m : Metric) : Within now order s (t.counted m) :=
  ⟨h.reservation, h.payment, h.transaction, h.log⟩

theorem notified (h : Within now order s t) (n : Notifier) :
    Within now order s { t with notifier := n } :=
  ⟨h.reservation, h.payment, h.transaction, h.log⟩

theorem called (h : Within now order s t) (op : GatewayOperation) :
    Within now order s (t.withGateway (t.gateway.called op)) where
  reservation := h.reservation
  payment := h.payment
  transaction := by
    intro id hid
    rw [Hotel.withGateway_gateway, Gateway.transactions_called, h.transaction id hid]
  log := h.log

theorem opened (h : Within now order s t) (amount : Money) :
    Within now order s (t.withGateway (t.gateway.opened order.transactionId amount)) where
  reservation := h.reservation
  payment := h.payment
  transaction := by
    intro id hid
    rw [Hotel.withGateway_gateway, Gateway.opened_transactions, Std.ExtTreeMap.getElem?_insert,
      h.transaction id hid]
    simp [hid.symm]
  log := h.log

theorem closed (h : Within now order s t) :
    Within now order s (t.withGateway (t.gateway.closed order.transactionId)) where
  reservation := h.reservation
  payment := h.payment
  transaction := by
    intro id hid
    rw [Hotel.withGateway_gateway, Gateway.closed_transactions, Std.ExtTreeMap.getElem?_erase,
      h.transaction id hid]
    simp [hid.symm]
  log := h.log

theorem offered (h : Within now order s t) {e : Envelope} (he : order.Names e) :
    Within now order s (t.offered e) := by
  unfold Hotel.offered
  cases t.log.publishError? e.topic with
  | some err => exact h
  | none =>
      obtain ⟨es, hlog, hes⟩ := h.log
      refine ⟨h.reservation, h.payment, h.transaction, es ++ [e], ?_, ?_⟩
      · rw [Hotel.published_log, hlog]
        exact EventLog.appendAll_appendAll es [e] s.log
      · simpa [or_imp, forall_and] using ⟨hes, he⟩

theorem storeReservation (h : Within now order s t)
    (hnew : s.reservation? order.reservation.reservationId = none) {r : Reservation}
    (hr : (order.pendingReservation now).Becomes r) :
    Within now order s (t.storeReservation order.reservation.reservationId r) where
  reservation := by
    intro id
    rw [Hotel.reservation?_storeReservation]
    split_ifs with hid
    · subst hid
      exact .inr ⟨rfl, hnew, r, rfl, hr⟩
    · exact h.reservation id
  payment := h.payment
  transaction := h.transaction
  log := h.log

theorem storePayment (h : Within now order s t) (hnew : s.payment? order.paymentId = none) {p : Payment}
    (hp : (Payment.make now order.payment).Becomes p) :
    Within now order s (t.storePayment order.paymentId p) where
  reservation := h.reservation
  payment := by
    intro id
    rw [Hotel.payment?_storePayment]
    split_ifs with hid
    · subst hid
      exact .inr ⟨rfl, hnew, p, rfl, hp⟩
    · exact h.payment id
  transaction := h.transaction
  log := h.log

theorem reservation?_eq (h : Within now order s t) {id : ReservationId}
    (hid : id ≠ order.reservation.reservationId) : t.reservation? id = s.reservation? id := by
  rcases h.reservation id with hsame | ⟨hown, -⟩
  · exact hsame
  · exact absurd hown hid

theorem payment?_eq (h : Within now order s t) {id : PaymentId} (hid : id ≠ order.paymentId) :
    t.payment? id = s.payment? id := by
  rcases h.payment id with hsame | ⟨hown, -⟩
  · exact hsame
  · exact absurd hown hid

theorem reservation?_eq_none (h : Within now order s t) {id : ReservationId}
    (hnone : t.reservation? id = none) : s.reservation? id = none := by
  rcases h.reservation id with hsame | ⟨-, hnew, -⟩
  · exact hsame.symm.trans hnone
  · exact hnew

theorem payment?_eq_none (h : Within now order s t) {id : PaymentId} (hnone : t.payment? id = none) :
    s.payment? id = none := by
  rcases h.payment id with hsame | ⟨-, hnew, -⟩
  · exact hsame.symm.trans hnone
  · exact hnew

/-- A reservation found under the identifier is the booking's own, if there was none at first. -/
theorem becomes_of_reservation? (h : Within now order s t)
    (hnew : s.reservation? order.reservation.reservationId = none) {r : Reservation}
    (hr : t.reservation? order.reservation.reservationId = some r) :
    (order.pendingReservation now).Becomes r := by
  rcases h.reservation order.reservation.reservationId with hsame | ⟨-, -, r', hr', hbecomes⟩
  · rw [hr, hnew] at hsame
    contradiction
  · cases hr.symm.trans hr'
    exact hbecomes

theorem becomes_of_payment? (h : Within now order s t) (hnew : s.payment? order.paymentId = none)
    {p : Payment} (hp : t.payment? order.paymentId = some p) :
    (Payment.make now order.payment).Becomes p := by
  rcases h.payment order.paymentId with hsame | ⟨-, -, p', hp', hbecomes⟩
  · rw [hp, hnew] at hsame
    contradiction
  · cases hp.symm.trans hp'
    exact hbecomes

theorem rejected (h : Within now order s t) (op : GatewayOperation) :
    Within now order s (t.rejected op) :=
  (h.called op).counted _

/-! ### The operations -/

theorem create (h : Within now order s t) :
    Within now order s ((Reservations.create now order.reservation).after t) := by
  rw [Reservations.create_after]
  split_ifs
  · cases hmake : Reservation.make now order.reservation with
    | error e => exact h
    | ok r =>
        obtain ⟨-, -, -, rfl⟩ := Reservation.make_eq_ok_iff.mp hmake
        dsimp only
        cases hcreate : t.reservations.createError? (Reservation.fresh now order.reservation).id.text with
        | some e => exact h
        | none =>
            have hnone : t.reservation? order.reservation.reservationId = none :=
              (Table.createError?_eq_none_iff.mp hcreate).2
            have hnew := h.reservation?_eq_none hnone
            exact (h.storeReservation hnew (.refl _)).offered (BookingOrder.names_reservation now rfl)
  · exact h

/-- A change of a reservation that is the booking's own. -/
theorem modify (h : Within now order s t)
    (hnew : s.reservation? order.reservation.reservationId = none)
    {f : Reservation → Except ReservationError Reservation}
    (hf : ∀ r r', f r = .ok r' → r.Becomes r') {event : Reservation → ReservationEvent}
    (hevent : ∀ r, (event r).reservationId = r.id) :
    Within now order s
      ((Reservations.modify now order.reservation.reservationId f event).after t) := by
  rw [Reservations.modify_after]
  cases hr : t.reservation? order.reservation.reservationId with
  | none => exact h
  | some r =>
      dsimp only
      cases hchanged : f r with
      | error e => exact h
      | ok r' =>
          cases t.reservations.updateError? order.reservation.reservationId.text with
          | some e => exact h
          | none =>
              -- What is found was not there at first, so the booking has made it.
              have hbecomes := (h.becomes_of_reservation? hnew hr).trans (hf r r' hchanged)
              refine (h.storeReservation hnew hbecomes).offered (BookingOrder.names_reservation now ?_)
              exact (hevent r').trans hbecomes.id

theorem authorize (h : Within now order s t) :
    Within now order s ((Payments.authorize now order.payment).after t) := by
  have hnew (hcreate : t.payments.createError? order.payment.paymentId.text = none) :
      s.payment? order.paymentId = none :=
    h.payment?_eq_none (Table.createError?_eq_none_iff.mp hcreate).2
  have hopen : (Payment.make now order.payment).status ≠ .refunded := by
    change PaymentStatus.pending ≠ .refunded
    nofun
  have hopened : Within now order s (t.transactionOpened (.make now order.payment)) :=
    (h.called .authorize).opened _
  rw [Payments.authorize_after]
  cases t.gateway.authorizeError? with
  | some e =>
      cases hcreate : t.payments.createError? order.payment.paymentId.text with
      | some err => exact h.rejected _
      | none =>
          have hfailed := (h.rejected .authorize).storePayment (hnew hcreate) (.record hopen
            (.failed now Payments.authorizationFailed e.message))
          exact hfailed.offered (BookingOrder.names_payment now rfl)
  | none =>
      cases hcreate : t.payments.createError? order.payment.paymentId.text with
      | some err => exact hopened
      | none =>
          have hauthorized := hopened.storePayment (hnew hcreate)
            (.authorized hopen now order.transactionId)
          exact hauthorized.offered (BookingOrder.names_payment now rfl)

/-- A later form of the payment that is the booking's own. -/
theorem replacePayment (h : Within now order s t) (hnew : s.payment? order.paymentId = none)
    {p q : Payment} (hp : t.payment? order.paymentId = some p) (hbecomes : p.Becomes q) :
    q.id = order.paymentId ∧ Within now order s (t.storePayment order.paymentId q) := by
  have hown := (h.becomes_of_payment? hnew hp).trans hbecomes
  exact ⟨hown.id, h.storePayment hnew hown⟩

theorem save (h : Within now order s t) {q : Payment}
    (hstored : Within now order s (t.storePayment order.paymentId q)) {e : Envelope}
    (he : order.Names e) (error? : Option StorageError) :
    Within now order s (after (Hotel.save error? order.paymentId q e) t) := by
  rw [Hotel.save_after]
  cases error? with
  | some err => exact h
  | none => exact hstored.offered he

theorem captureFailed (h : Within now order s t) (hnew : s.payment? order.paymentId = none)
    {p : Payment} (hp : t.payment? order.paymentId = some p) (e : GatewayError) :
    Within now order s (t.captureFailed now order.paymentId e p) := by
  unfold Hotel.captureFailed
  cases hfail : p.fail now Payments.captureFailed e.message with
  | error err => exact h
  | ok q =>
      obtain ⟨hid, hstored⟩ := h.replacePayment hnew hp (.of_fail hfail)
      dsimp only
      cases t.payments.updateError? order.paymentId.text with
      | some err => exact h.offered (BookingOrder.names_payment now hid)
      | none => exact hstored.offered (BookingOrder.names_payment now hid)

theorem capture (h : Within now order s t) (hnew : s.payment? order.paymentId = none) :
    Within now order s ((Payments.capture now order.paymentId).after t) := by
  unfold after outcome
  rw [Payments.capture_apply]
  cases hp : t.payment? order.paymentId with
  | none => exact h
  | some p =>
      dsimp only
      cases t.gateway.captureError? (p.transactionId.getD "") p.amount with
      | some e => exact (h.rejected .capture).captureFailed hnew hp e
      | none =>
          have hcaptured : Within now order s t.amountCaptured := h.called .capture
          dsimp only
          cases hcapture : p.capture now with
          | error e => exact hcaptured
          | ok q =>
              obtain ⟨hid, hstored⟩ := hcaptured.replacePayment hnew hp (.of_capture hcapture)
              refine hcaptured.save hstored (BookingOrder.names_payment now ?_) _
              exact hid

/-- A refund closes the transaction that the booking has opened. -/
theorem refund (h : Within now order s t) (hnew : s.payment? order.paymentId = none)
    (hp : t.payment? order.paymentId = some (order.capturedPayment now)) :
    Within now order s ((Payments.refund now order.paymentId).after t) := by
  -- The captured payment notes the transaction of the order, so it is this one that is closed.
  have hclosed : Within now order s (t.transactionRefunded order.transactionId) :=
    (h.called .refund).closed
  have hrefund : (order.capturedPayment now).refund now = .ok (order.refundedPayment now) := rfl
  obtain ⟨-, hstored⟩ := hclosed.replacePayment hnew hp (.of_refund hrefund)
  unfold after outcome
  rw [Payments.refund_apply, hp]
  dsimp only
  cases t.gateway.refundError? ((order.capturedPayment now).transactionId.getD "") with
  | some e => exact h.rejected .refund
  | none => exact hclosed.save hstored (BookingOrder.names_payment now rfl) _

theorem leavesOthers (h : Within now order s t) : LeavesOthers order s t where
  reservation := by
    intro id r hr
    rcases h.reservation id with hsame | ⟨-, hnew, -⟩
    · exact hsame.trans hr
    · cases hnew.symm.trans hr
  payment := by
    intro id p hp
    rcases h.payment id with hsame | ⟨-, hnew, -⟩
    · exact hsame.trans hp
    · cases hnew.symm.trans hp
  newReservation := by
    intro id hnone hsome
    by_contra hid
    exact hsome ((h.reservation?_eq hid).trans hnone)
  newPayment := by
    intro id hnone hsome
    by_contra hid
    exact hsome ((h.payment?_eq hid).trans hnone)
  transaction := h.transaction
  log := h.log

end Within

section
variable {now : Instant} {order : BookingOrder} {s t u : Hotel} {step : BookingStep}

/-- A step that is reached touches nothing but what is the booking's own, however it ends. -/
theorem Reaches.perform_within (hreaches : Reaches now order s step t) (h : Within now order s t) :
    Within now order s ((perform now order step).after t) := by
  unfold perform
  cases step with
  | createReservation =>
      rw [after_discard]
      exact h.create
  | authorizePayment =>
      rw [after_discard]
      exact h.authorize
  | capturePayment =>
      have hauthorize : Feasible now order s .authorizePayment := hreaches.feasible (by decide)
      rw [after_discard]
      exact h.capture hauthorize.2.1
  | confirmReservation =>
      have hcreate : Feasible now order s .createReservation := hreaches.feasible (by decide)
      rw [after_discard]
      exact h.modify hcreate.2.2.2.2.1 (fun _ _ => Reservation.Becomes.of_change) fun _ => rfl

theorem Reaches.within (hreaches : Reaches now order s step t) : Within now order s t := by
  induction hreaches with
  | first => exact .refl now order s
  | next hreaches _ hperform ih =>
      have hstep := hreaches.perform_within ih
      rw [after_of_ok hperform] at hstep
      exact hstep

theorem FailsAt.within {e : OperationError} (h : FailsAt now order s step e u) :
    Within now order s u := by
  obtain ⟨t, hreaches, hperform⟩ := h
  have hstep := hreaches.perform_within hreaches.within
  rw [after_of_error hperform] at hstep
  exact hstep

/-- What is refunded has been paid by the booking. -/
theorem FailsAt.refund_within {e : OperationError} (h : FailsAt now order s step e u) :
    Within now order s ((refundCaptured now (capturedBy order step)).after u) := by
  by_cases hstep : step = .confirmReservation
  · subst hstep
    obtain ⟨hpayment, -, -⟩ := h.captured
    have hnew : s.payment? order.paymentId = none := by
      obtain ⟨t, hreaches, -⟩ := h
      have hauthorize : Feasible now order s .authorizePayment := hreaches.feasible (by decide)
      exact hauthorize.2.1
    obtain ⟨m, hm⟩ := refundCaptured_after now order.paymentId u
    change Within now order s ((refundCaptured now (some order.paymentId)).after u)
    rw [hm]
    exact (h.within.refund hnew hpayment).counted m
  · rw [capturedBy_eq_none order hstep]
    exact h.within

/-- What is cancelled has been reserved by the booking. -/
theorem FailsAt.cancel_within {e : OperationError} (h : FailsAt now order s step e u) {v : Hotel}
    (hv : Within now order s v) :
    Within now order s ((cancelAfter now step order.reservation.reservationId).after v) := by
  by_cases hstep : step = .createReservation
  · subst hstep
    exact hv
  · obtain ⟨reason, hreason⟩ := BookingStep.exists_cancellationReason hstep
    have hnew : s.reservation? order.reservation.reservationId = none := by
      obtain ⟨t, hreaches, -⟩ := h
      have hcreate : Feasible now order s .createReservation := by
        refine hreaches.feasible ?_
        cases step <;> first | contradiction | decide
      exact hcreate.2.2.2.2.1
    obtain ⟨m, hm⟩ := cancelAfter_after now hreason order.reservation.reservationId v
    rw [hm]
    refine (hv.modify hnew (fun _ _ => Reservation.Becomes.of_cancel) ?_).counted m
    intro r
    rfl

end

variable (now : Instant) (order : BookingOrder) (s : Hotel)

theorem run_within : Within now order s ((run now order).after s) := by
  rcases run_cases now order s with ⟨t, u, hreaches, hperform, hrun⟩ | ⟨step, e, u, hfails, hrun⟩
  · obtain ⟨-, n, hfinish⟩ := finish_of_reaches now order hreaches hperform
    have hu := hreaches.perform_within hreaches.within
    rw [after_of_ok hperform] at hu
    rw [after_of_ok (hrun.trans hfinish)]
    exact hu.notified n
  · obtain ⟨refunds, v, cancellations, w, hrefund, hcancel, hcompensate⟩ :=
      compensate_apply (α := Reservation) now step e order.reservation.reservationId
        (capturedBy order step) u
    have hv := hfails.refund_within
    rw [after_of_ok hrefund] at hv
    have hw := hfails.cancel_within hv
    rw [after_of_ok hcancel] at hw
    rw [after_of_error (hrun.trans hcompensate)]
    exact hw

/-- A whole booking touches nothing but what is its own. -/
theorem complete_within : Within now order s ((complete now order).after s) := by
  obtain ⟨m, hm⟩ := complete_after now order s
  have hrun := run_within now order (s.counted .executions)
  have hstart : Within now order s ((run now order).after (s.counted .executions)) :=
    ⟨hrun.reservation, hrun.payment, hrun.transaction, hrun.log⟩
  rw [hm]
  exact (hstart.counted _).counted m

/-- Whatever a booking comes to, it leaves what others have as it is. -/
theorem complete_leavesOthers : LeavesOthers order s ((complete now order).after s) :=
  (complete_within now order s).leavesOthers

end Booking
end HotelBooking
