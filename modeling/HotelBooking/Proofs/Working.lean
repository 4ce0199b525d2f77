import HotelBooking.Proofs.Completion
import HotelBooking.Proofs.Pump

/-!
# Bookings while storage and announcements work

If nothing that is stored or announced is refused (`Hotel.Working`), only the gateway and the rules decide
what becomes of a booking: its payment is declined, authorized but not captured, or the reservation is
confirmed. The state after the booking is known for each of these ends.
-/

namespace HotelBooking

open HotelBooking.Action

/-- Only the last of two values under one key counts. -/
theorem Table.insert_insert {α : Type} (key : String) (value other : α) (t : Table α) :
    (t.insert key value).insert key other = t.insert key other := by
  have hentries : (t.entries.insert key value).insert key other = t.entries.insert key other := by
    apply Std.ExtTreeMap.ext_getElem?
    intro k
    simp only [Std.ExtTreeMap.getElem?_insert]
    split_ifs <;> rfl
  simp only [insert, hentries]

theorem EventLog.topics_append (e : Envelope) (l : EventLog) :
    (l.append e).topics = l.topics ++ [e.topic] := by
  simp [topics]

/-- The topic on which it is announced that the step has succeeded. -/
def BookingStep.topic : BookingStep → String
  | createReservation => ReservationEvent.createdTopic
  | authorizePayment => PaymentEvent.authorizedTopic
  | capturePayment => Settlement.captured.topic
  | confirmReservation => ReservationChange.confirm.topic

namespace BookingOrder

variable (now : Instant) (order : BookingOrder)

/-- The payment when the gateway has declined it. -/
def declinedPayment : Payment :=
  (Payment.make now order.payment).record
    (.failed now Payments.authorizationFailed (GatewayError.declined "insufficient funds").message)

/-- The payment when the gateway has not captured it. -/
def uncapturedPayment : Payment :=
  (order.authorizedPayment now).record
    (.failed now Payments.captureFailed (GatewayError.unavailable "capture timed out").message)

end BookingOrder

namespace Hotel

/-- Whatever is stored can be changed, and whatever is announced is accepted. -/
structure Working (s : Hotel) : Prop where
  newReservations : s.reservations.refusesCreate = false
  reservationChanges : s.reservations.refusesUpdate = false
  newPayments : s.payments.refusesCreate = false
  paymentChanges : s.payments.refusesUpdate = false
  topics : s.log.refused = ∅

/-- Why the reservation is not made, if that does not depend on its announcement. -/
def creationError? (now : Instant) (order : ReservationOrder) (s : Hotel) : Option OperationError :=
  if s.blocking order.roomId order.stay = [] then
    match Reservation.make now order with
    | .error e => some (.reservation e)
    | .ok r => (s.reservations.createError? r.id.text).map .storage
  else some (.roomUnavailable order.roomId)

/-- The system after the gateway has declined a new payment. -/
def paymentDeclined (now : Instant) (order : BookingOrder) (s : Hotel) : Hotel :=
  ((s.rejected .authorize).storePayment order.paymentId (order.declinedPayment now)).published
    ((PaymentEvent.ofFailed (order.declinedPayment now)).toEnvelope now)

/-- The system after the gateway has not captured an authorized payment. -/
def paymentUncaptured (now : Instant) (order : BookingOrder) (s : Hotel) : Hotel :=
  ((s.rejected .capture).storePayment order.paymentId (order.uncapturedPayment now)).published
    ((PaymentEvent.ofFailed (order.uncapturedPayment now)).toEnvelope now)

/-- The system after it has cancelled the reservation, if that is still allowed. -/
def withdrawn (now : Instant) (r : Reservation) (reason : String) (s : Hotel) : Hotel :=
  if r.isCancellableAt now then
    (s.storeReservation r.id (r.cancelled now reason)).published
      ((ReservationEvent.ofCancelled (r.cancelled now reason)).toEnvelope now)
  else s

theorem paymentDeclined_outages (now : Instant) (order : BookingOrder) (s : Hotel) :
    (s.paymentDeclined now order).outages = s.outages := by
  simp [outages, paymentDeclined, rejected]

theorem paymentUncaptured_outages (now : Instant) (order : BookingOrder) (s : Hotel) :
    (s.paymentUncaptured now order).outages = s.outages := by
  simp [outages, paymentUncaptured, rejected]

section
variable (now : Instant) (order : BookingOrder) (s : Hotel)

theorem paymentDeclined_topics :
    (s.paymentDeclined now order).log.topics = s.log.topics ++ [PaymentEvent.failedTopic] :=
  EventLog.topics_append _ _

@[simp] theorem paymentUncaptured_reservations :
    (s.paymentUncaptured now order).reservations = s.reservations := rfl

@[simp] theorem paymentUncaptured_payments : (s.paymentUncaptured now order).payments =
    s.payments.insert order.paymentId.text (order.uncapturedPayment now) := rfl

@[simp] theorem paymentUncaptured_gateway :
    (s.paymentUncaptured now order).gateway = s.gateway.called .capture := rfl

@[simp] theorem paymentUncaptured_notifier : (s.paymentUncaptured now order).notifier = s.notifier := rfl

theorem paymentUncaptured_topics :
    (s.paymentUncaptured now order).log.topics = s.log.topics ++ [PaymentEvent.failedTopic] :=
  EventLog.topics_append _ _

end

theorem topics_of_queue {s : Hotel} (hqueue : s.log.queue = []) : s.log.topics = [] := by
  rw [EventLog.topics, hqueue, List.map_nil]

namespace Working

variable {s t : Hotel} (h : s.Working)
include h

theorem of_outages (hsame : t.outages = s.outages) : t.Working where
  newReservations := (congrArg Outages.newReservations hsame).trans h.newReservations
  reservationChanges := (congrArg Outages.reservationChanges hsame).trans h.reservationChanges
  newPayments := (congrArg Outages.newPayments hsame).trans h.newPayments
  paymentChanges := (congrArg Outages.paymentChanges hsame).trans h.paymentChanges
  topics := (congrArg Outages.topics hsame).trans h.topics

theorem not_mem_refused (topic : String) : topic ∉ s.log.refused := by
  rw [h.topics]
  exact Std.ExtTreeSet.not_mem_empty

theorem publishError?_eq_none (topic : String) : s.log.publishError? topic = none :=
  EventLog.publishError?_eq_none_iff.mpr (h.not_mem_refused topic)

theorem drained : s.drained.Working := h.of_outages rfl

theorem offered_rejected (op : GatewayOperation) (id : PaymentId) (p : Payment) (e : Envelope) :
    ((s.rejected op).storePayment id p).offered e = ((s.rejected op).storePayment id p).published e := by
  have hlog : ((s.rejected op).storePayment id p).log = s.log := rfl
  rw [offered, hlog, h.publishError?_eq_none]

variable (now : Instant)

/-- What cannot be reserved is refused without effect. -/
theorem create_apply (order : BookingOrder) :
    Reservations.create now order.reservation s =
      match s.creationError? now order.reservation with
      | some e => .error e s
      | none =>
        .ok (order.pendingReservation now) (Booking.effect now order .createReservation s) := by
  rw [Reservations.create_apply]
  unfold creationError?
  split_ifs with hfree
  · cases hmake : Reservation.make now order.reservation with
    | error e => rfl
    | ok r =>
        obtain ⟨-, -, -, rfl⟩ := Reservation.make_eq_ok_iff.mp hmake
        dsimp only
        cases s.reservations.createError? (Reservation.fresh now order.reservation).id.text with
        | some e => rfl
        | none =>
            dsimp only [Option.map_none]
            rw [h.publishError?_eq_none]
            rfl
  · rfl

theorem create_refused (order : BookingOrder) {e : OperationError}
    (he : s.creationError? now order.reservation = some e) :
    Reservations.create now order.reservation s = .error e s := by
  rw [h.create_apply, he]

theorem create_ok (order : BookingOrder) (hfree : s.creationError? now order.reservation = none) :
    Reservations.create now order.reservation s =
      .ok (order.pendingReservation now) (Booking.effect now order .createReservation s) := by
  rw [h.create_apply, hfree]

/-- A reservation that is refused ends the booking, and nothing but the counts has changed. -/
theorem complete_refused (order : BookingOrder) {e : OperationError}
    (he : s.creationError? now order.reservation = some e) :
    Booking.complete now order s = .error (.stepFailed .createReservation e)
      (((s.counted .executions).counted .durations).counted (.failed (some .createReservation))) := by
  have hstart : (s.counted .executions).Working := h.of_outages rfl
  have hfails : Booking.FailsAt now order (s.counted .executions) .createReservation e
      (s.counted .executions) :=
    ⟨_, .first, discard_eq_error_iff.mpr (hstart.create_refused now order he)⟩
  rw [Booking.complete_apply, hfails.run_eq]
  rfl

variable (order : BookingOrder)

theorem authorize_ok (hnew : s.payment? order.paymentId = none)
    (hgateway : s.gateway.failsAuthorize = false) :
    Payments.authorize now order.payment s =
      .ok (order.authorizedPayment now) (Booking.effect now order .authorizePayment s) := by
  rw [Payments.authorize_eq_ok_iff]
  exact ⟨Gateway.authorizeError?_eq_none_iff.mpr hgateway,
    Table.createError?_eq_none_iff.mpr ⟨h.newPayments, hnew⟩, h.publishError?_eq_none _, rfl, rfl⟩

theorem authorize_error (hnew : s.payment? order.paymentId = none)
    (hgateway : s.gateway.failsAuthorize = true) :
    Payments.authorize now order.payment s =
      .error (.gateway .authorize (.declined "insufficient funds")) (s.paymentDeclined now order) := by
  have herror : s.gateway.authorizeError? = some (.declined "insufficient funds") := if_pos hgateway
  have hcreate : s.payments.createError? order.payment.paymentId.text = none :=
    Table.createError?_eq_none_iff.mpr ⟨h.newPayments, hnew⟩
  rw [Payments.authorize_apply, herror, hcreate]
  dsimp only
  rw [h.offered_rejected]
  rfl

section
variable {order} (hp : s.payment? order.paymentId = some (order.authorizedPayment now))
include hp

theorem capture_ok (hopen : s.gateway.transactions[order.transactionId]? = some order.reservation.total)
    (hgateway : s.gateway.failsCapture = false) :
    Payments.capture now order.paymentId s =
      .ok (order.capturedPayment now) (Booking.effect now order .capturePayment s) := by
  rw [Payments.capture_eq_ok_iff now s hp]
  exact ⟨Gateway.captureError?_eq_none_iff.mpr ⟨hgateway, hopen⟩, rfl,
    (Table.updateError?_eq_none_iff hp).mpr h.paymentChanges, h.publishError?_eq_none _, rfl, rfl⟩

theorem capture_error (hgateway : s.gateway.failsCapture = true) :
    Payments.capture now order.paymentId s =
      .error (.gateway .capture (.unavailable "capture timed out")) (s.paymentUncaptured now order) := by
  have herror : s.gateway.captureError? ((order.authorizedPayment now).transactionId.getD "")
      (order.authorizedPayment now).amount = some (.unavailable "capture timed out") := if_pos hgateway
  have hupdate : (s.rejected .capture).payments.updateError? order.paymentId.text = none :=
    (Table.updateError?_eq_none_iff hp).mpr h.paymentChanges
  have hfail : (order.authorizedPayment now).fail now Payments.captureFailed
      (GatewayError.unavailable "capture timed out").message = .ok (order.uncapturedPayment now) := rfl
  rw [Payments.capture_apply, hp]
  dsimp only
  rw [herror]
  dsimp only [captureFailed]
  rw [hfail]
  dsimp only
  rw [hupdate]
  dsimp only
  rw [h.offered_rejected]
  rfl

end

theorem confirm_ok {order : BookingOrder}
    (hr : s.reservation? order.reservation.reservationId = some (order.pendingReservation now)) :
    Reservations.change now .confirm order.reservation.reservationId s =
      .ok (order.confirmedReservation now) (Booking.effect now order .confirmReservation s) := by
  unfold Reservations.change
  rw [Reservations.modify_eq_ok_iff now s hr]
  exact ⟨rfl, (Table.updateError?_eq_none_iff hr).mpr h.reservationChanges, h.publishError?_eq_none _, rfl⟩

theorem withdrawn (r : Reservation) (reason : String) : (s.withdrawn now r reason).Working := by
  unfold Hotel.withdrawn
  split_ifs
  · exact h.of_outages rfl
  · exact h

theorem onCaptured_after {order : BookingOrder}
    (hr : s.reservation? order.reservation.reservationId = some (order.pendingReservation now)) :
    (Booking.onCaptured now order.reservation.reservationId).after s =
      (Booking.effect now order .confirmReservation s).confirmationSent (order.confirmedReservation now) := by
  unfold after outcome Booking.onCaptured
  simp only [bind_apply, mapError_apply, h.confirm_ok now hr, Booking.notifyConfirmation_apply, pure_apply]

theorem cancel_after {id : ReservationId} {r : Reservation} (hr : s.reservation? id = some r)
    (hid : r.id = id) (reason : String) :
    (Reservations.cancel now id reason).after s = s.withdrawn now r reason := by
  subst hid
  unfold after outcome Reservations.cancel Hotel.withdrawn
  rw [Reservations.modify_apply, hr]
  dsimp only
  split_ifs with hearly
  · rw [Reservation.cancel_eq_ok_iff.mpr ⟨hearly, rfl⟩]
    dsimp only
    rw [(Table.updateError?_eq_none_iff hr).mpr h.reservationChanges]
    dsimp only
    rw [h.publishError?_eq_none]
  · cases hcancel : r.cancel now reason with
    | error e => rfl
    | ok r' => exact absurd (Reservation.cancel_eq_ok_iff.mp hcancel).1 hearly

end Working

section
variable (now : Instant) (r : Reservation) (reason : String) (s : Hotel)

theorem withdrawn_queue : (s.withdrawn now r reason).log.queue =
    s.log.queue ++ if r.isCancellableAt now then
      [(ReservationEvent.ofCancelled (r.cancelled now reason)).toEnvelope now] else [] := by
  unfold withdrawn
  split_ifs
  · rfl
  · simp

theorem withdrawn_topics : (s.withdrawn now r reason).log.topics =
    s.log.topics ++ if r.isCancellableAt now then [ReservationEvent.cancelledTopic] else [] := by
  rw [EventLog.topics, withdrawn_queue, List.map_append]
  split_ifs <;> rfl

theorem withdrawn_reservations : (s.withdrawn now r reason).reservations =
    if r.isCancellableAt now then s.reservations.insert r.id.text (r.cancelled now reason)
    else s.reservations := by
  unfold withdrawn
  split_ifs <;> rfl

/-- Whether it was cancelled or not, the reservation cannot be cancelled now. -/
theorem withdrawn_reservation? (hr : s.reservation? r.id = some r) :
    ∃ r', (s.withdrawn now r reason).reservation? r.id = some r' ∧ r'.id = r.id ∧
      r'.isCancellableAt now = false := by
  unfold withdrawn
  split_ifs with hearly
  · exact ⟨r.cancelled now reason, by simp [reservation?_storeReservation], rfl, rfl⟩
  · exact ⟨r, hr, rfl, by simpa using hearly⟩

/-- For another reason, nothing but the reason of a cancelled reservation is different. -/
theorem withdrawn_reservations_of_reason {t : Hotel} (h : t.reservations = s.reservations)
    (reason' : String) :
    (t.withdrawn now r reason').reservations = (s.withdrawn now r reason).reservations ∨
      ∃ r', (s.withdrawn now r reason).reservation? r.id = some r' ∧ r'.status = .cancelled ∧
        (t.withdrawn now r reason').reservations = (s.withdrawn now r reason).reservations.insert
          r.id.text { r' with cancellationReason := some reason' } := by
  unfold withdrawn
  split_ifs
  · refine .inr ⟨r.cancelled now reason, by simp [reservation?_storeReservation], rfl, ?_⟩
    simp only [published_reservations, storeReservation_reservations, h, Table.insert_insert]
    rfl
  · exact .inl h

@[simp] theorem withdrawn_payments : (s.withdrawn now r reason).payments = s.payments := by
  unfold withdrawn
  split_ifs <;> rfl

@[simp] theorem withdrawn_gateway : (s.withdrawn now r reason).gateway = s.gateway := by
  unfold withdrawn
  split_ifs <;> rfl

@[simp] theorem withdrawn_notifier : (s.withdrawn now r reason).notifier = s.notifier := by
  unfold withdrawn
  split_ifs <;> rfl

end

end Hotel

namespace Booking

variable (now : Instant) {order : BookingOrder} {s : Hotel}

theorem compensate_after {α : Type} {step : BookingStep} {reason : String}
    (hreason : step.cancellationReason = some reason) (e : OperationError) (id : ReservationId)
    (s : Hotel) :
    ∃ m, (compensate now step e id none : Action Hotel _ α).after s =
      ((Reservations.cancel now id reason).after s).counted m := by
  have hnothing : (refundCaptured now none : Action Hotel _ _) s = .ok [] s := rfl
  rw [compensate_eq, after_bind_ok _ hnothing, ← Moves.after_bind (R := Eq) (fun _ _ => rfl) s]
  exact cancelAfter_after now hreason id s

/-- A step that fails before anything is captured has the reservation cancelled. -/
theorem run_after_of_compensate {step : BookingStep} {reason : String} {e : OperationError} {t : Hotel}
    (hrun : run now order s = compensate now step e order.reservation.reservationId none t)
    (hreason : step.cancellationReason = some reason) (ht : t.Working)
    (hr : t.reservation? order.reservation.reservationId = some (order.pendingReservation now)) :
    ∃ m, (run now order).after s = (t.withdrawn now (order.pendingReservation now) reason).counted m := by
  obtain ⟨m, hm⟩ := compensate_after (α := Reservation) now hreason e
    order.reservation.reservationId t
  refine ⟨m, ?_⟩
  rw [← ht.cancel_after now hr rfl, ← hm]
  exact after_congr hrun

section
variable (order) (h : s.Working) (hcreate : Feasible now order s .createReservation)
include h hcreate

theorem run_declined (hnew : s.payment? order.paymentId = none)
    (hgateway : s.gateway.failsAuthorize = true) :
    ∃ m, (run now order).after s = (((before now order s .authorizePayment).paymentDeclined now order
      ).withdrawn now (order.pendingReservation now) "payment_authorization_failed").counted m := by
  have hw : (before now order s .authorizePayment).Working := h.of_outages (before_outages now order s _)
  have hfails : FailsAt now order s .authorizePayment _
      ((before now order s .authorizePayment).paymentDeclined now order) :=
    ⟨_, .next .first rfl ((perform_before_eq_ok_iff now order s).mpr ⟨hcreate, rfl⟩),
      discard_eq_error_iff.mpr (hw.authorize_error now order hnew hgateway)⟩
  exact run_after_of_compensate now hfails.run_eq rfl
    (hw.of_outages (Hotel.paymentDeclined_outages now order _)) (effect_reservation? now order s)

variable (hauthorize : Feasible now order s .authorizePayment)
include hauthorize

theorem run_uncaptured (hcapture : s.gateway.failsCapture = true) :
    ∃ m, (run now order).after s = (((before now order s .capturePayment).paymentUncaptured now order
      ).withdrawn now (order.pendingReservation now) BookingStep.captureFailedReason).counted m := by
  have houtages := before_outages now order s .capturePayment
  have hw : (before now order s .capturePayment).Working := h.of_outages houtages
  have hfirst := (perform_before_eq_ok_iff now order s).mpr ⟨hcreate, rfl⟩
  have hsecond := (perform_before_eq_ok_iff now order s).mpr ⟨hauthorize, rfl⟩
  have hfails : FailsAt now order s .capturePayment _
      ((before now order s .capturePayment).paymentUncaptured now order) :=
    ⟨_, .next (.next .first rfl hfirst) rfl hsecond,
      discard_eq_error_iff.mpr (hw.capture_error now (before_capture_payment? now order s)
        ((congrArg Outages.capture houtages).trans hcapture))⟩
  exact run_after_of_compensate now hfails.run_eq rfl
    (hw.of_outages (Hotel.paymentUncaptured_outages now order _)) (effect_reservation? now order s)

theorem run_confirmed (hcapture : s.gateway.failsCapture = false) :
    (run now order).after s =
      (effect now order .confirmReservation (before now order s .confirmReservation)).confirmationSent
        (order.confirmedReservation now) := by
  have hfirst := (perform_before_eq_ok_iff now order s).mpr ⟨hcreate, rfl⟩
  have hsecond := (perform_before_eq_ok_iff now order s).mpr ⟨hauthorize, rfl⟩
  have hlast : Feasible now order s .capturePayment ∧ Feasible now order s .confirmReservation :=
    ⟨⟨hcapture, h.paymentChanges, h.not_mem_refused _⟩, h.reservationChanges, h.not_mem_refused _⟩
  have hthird := (perform_before_eq_ok_iff now order s).mpr ⟨hlast.1, rfl⟩
  have hfourth := (perform_before_eq_ok_iff now order s).mpr ⟨hlast.2, rfl⟩
  have hreaches : Reaches now order s .confirmReservation (before now order s .confirmReservation) :=
    .next (.next (.next .first rfl hfirst) rfl hsecond) rfl hthird
  have hstored : (effect now order .confirmReservation (before now order s .confirmReservation)
      ).reservation? order.reservation.reservationId = some (order.confirmedReservation now) := by
    simp [effect, Hotel.reservation?_storeReservation]
  exact after_of_ok ((hreaches.run_eq hfourth).trans (finish_apply order hstored))

end
end Booking
end HotelBooking
