import HotelBooking.Proofs.Completion
import HotelBooking.Proofs.FirstStep

/-!
# What a confirmed reservation is worth

A booking that leaves its reservation confirmed leaves the payment captured, unless the confirmation
was stored and its announcement refused: the payment is refunded then, and the reservation stays
confirmed if check-in is too close for it to be cancelled.
-/

namespace HotelBooking

open HotelBooking.Action

/-- A failed step leaves the reservation confirmed only if it was the last one, and only its
announcement failed. -/
theorem BookingOrder.leftBy_confirmed_iff {now : Instant} {order : BookingOrder} {step : BookingStep}
    {e : OperationError} : (order.leftBy now step e).status = .confirmed ↔
      step = .confirmReservation ∧ e.IsUnannounced := by
  unfold leftBy OperationError.IsUnannounced
  split
  · simp [confirmedReservation]
  · rename_i hleft
    refine iff_of_false nofun ?_
    rintro ⟨rfl, err, rfl⟩
    exact hleft err rfl rfl

namespace Booking

variable {now : Instant} {order : BookingOrder} {s t : Hotel}

theorem payment?_of_complete {r : Reservation} (h : complete now order s = .ok r t) :
    t.payment? order.paymentId = some (order.capturedPayment now) := by
  obtain ⟨n, hn⟩ := complete_of_feasible (feasible_of_complete h)
  rw [hn] at h
  cases h
  exact before_confirm_payment? now order (s.counted .executions)

theorem failureReport_of_ne_nil {step : BookingStep} {e : OperationError}
    {failures : List CompensationFailure} (h : failures ≠ []) :
    failureReport step e failures = .compensationFailed step e failures := by
  cases failures with
  | nil => contradiction
  | cons f fs => rfl

/-- If a confirmation fails only at its announcement, reservations can be changed. -/
theorem FailsAt.reservationChanges {err : PublishError} {u : Hotel}
    (h : FailsAt now order s .confirmReservation (.publish err) u) :
    s.outages.reservationChanges = false := by
  obtain ⟨r, hreaches, hperform⟩ := h
  have hr : r.reservation? order.reservation.reservationId = some (order.pendingReservation now) := by
    rw [hreaches.eq_before]
    exact before_reservation? now order s nofun
  have hupdate : r.reservations.updateError? order.reservation.reservationId.text = none :=
    Reservations.updateError?_of_modify now r (discard_eq_error_iff.mp hperform)
  have hworks : r.outages.reservationChanges = false :=
    (Table.updateError?_eq_none_iff hr).mp hupdate
  rw [hreaches.eq_before, before_outages] at hworks
  exact hworks

/-- The confirmation was stored and could not be announced, and the reservation could not be cancelled
any more. -/
structure Stranded (now : Instant) (order : BookingOrder) (err : BookingError) : Prop where
  tooLate : order.isTooLate now = true
  reported : ∃ refused failures,
    err = .compensationFailed .confirmReservation (.publish refused) failures ∧
      .cancelReservation ∈ failures.map (·.action)

/-- A booking that fails leaves the reservation confirmed only if it cannot be cancelled any more. -/
theorem stranded_of_error {err : BookingError} {r : Reservation}
    (hnew : s.reservation? order.reservation.reservationId = none)
    (h : complete now order s = .error err t)
    (hr : t.reservation? order.reservation.reservationId = some r) (hstatus : r.status = .confirmed) :
    Stranded now order err ∧ t.payment? order.paymentId =
      some (if s.gateway.failsRefund then order.capturedPayment now
        else order.refundedPayment now) := by
  obtain ⟨step, source, u, refunds, v, cancellations, w, hfails, hrefund, hcancel, rfl, rfl⟩ :=
    complete_eq_error h
  have hlater : step ≠ .createReservation := by
    rintro rfl
    cases hrefund
    cases hcancel
    exact (complete_failedStart h).not_confirmed hnew hr hstatus
  have hundone := hfails.undone hlater hrefund hcancel
  obtain ⟨reason, -, hstored⟩ := hundone.reservation
  have hleft := hr.symm.trans hstored
  split_ifs at hleft with hstays
  · cases hleft
    obtain ⟨rfl, refused, rfl⟩ := BookingOrder.leftBy_confirmed_iff.mp hstatus
    have hlate : order.isTooLate now = true := by
      rw [hfails.reservationChanges, Bool.or_false] at hstays
      exact hstays
    have hactions := hundone.actions
    rw [hlate, Bool.true_or, if_pos rfl] at hactions
    have hcancelled : .cancelReservation ∈ (refunds ++ cancellations).map (·.action) := by
      rw [hactions]
      exact List.mem_append_right _ (List.mem_singleton_self _)
    have hfailures : refunds ++ cancellations ≠ [] := by
      intro hnil
      rw [hnil] at hcancelled
      contradiction
    exact ⟨⟨hlate, refused, _, failureReport_of_ne_nil hfailures, hcancelled⟩, hundone.payment rfl⟩
  · cases hleft
    contradiction

/-- A booking that leaves its reservation confirmed leaves the payment captured, or else refunded,
after a confirmation that could not be announced and came too late to be taken back. -/
theorem confirmed_paid {r : Reservation}
    (hnew : s.reservation? order.reservation.reservationId = none)
    (hr : ((complete now order).after s).reservation? order.reservation.reservationId = some r)
    (hstatus : r.status = .confirmed) :
    ∃ p, ((complete now order).after s).payment? order.paymentId = some p ∧
      (p.status = .captured ∨ p.status = .refunded ∧ s.gateway.failsRefund = false ∧
        ∃ err, ((complete now order).outcome s).1 = .error err ∧ Stranded now order err) := by
  cases h : complete now order s with
  | ok r' t =>
      rw [after_of_ok h]
      exact ⟨_, payment?_of_complete h, .inl rfl⟩
  | error err t =>
      rw [after_of_error h] at hr ⊢
      obtain ⟨hstranded, hpayment⟩ := stranded_of_error hnew h hr hstatus
      refine ⟨_, hpayment, ?_⟩
      cases hrefund : s.gateway.failsRefund with
      | true => exact .inl rfl
      | false =>
          have herr : ((complete now order).outcome s).1 = .error err := by
            rw [outcome, h]
          exact .inr ⟨rfl, rfl, err, herr, hstranded⟩

open Sample

/-- One room for one guest, from today on. -/
def lateBooking : BookingOrder := ⟨Sample.order "res-1" 1 3, ⟨"pay-1"⟩, "card"⟩

/-- Confirmations cannot be announced and nothing is refunded. -/
def unforgiving : Hotel where
  gateway := { failsRefund := true }
  log := { refused := {ReservationChange.confirm.topic} }

set_option maxRecDepth 10000 in
theorem unforgiving_confirmed_paid :
    ∃ r p, unforgiving.reservation? lateBooking.reservation.reservationId = none ∧
      ((complete (day 1) lateBooking).after unforgiving).reservation?
        lateBooking.reservation.reservationId = some r ∧ r.status = .confirmed ∧
          ((complete (day 1) lateBooking).after unforgiving).payment? lateBooking.paymentId = some p ∧
            p.status = .captured := by
  have hnew : unforgiving.reservation? lateBooking.reservation.reservationId = none := by
    decide +kernel
  have hr : ((complete (day 1) lateBooking).after unforgiving).reservation?
      lateBooking.reservation.reservationId = some (lateBooking.confirmedReservation (day 1)) := by
    decide +kernel
  obtain ⟨p, hp, hcaptured | ⟨-, hrefund, -⟩⟩ := confirmed_paid hnew hr rfl
  · exact ⟨_, p, hnew, hr, rfl, hp, hcaptured⟩
  · exact absurd hrefund (by decide)

set_option maxRecDepth 10000 in
/-- The amount is given back and the guest keeps the room. -/
theorem lateBooking_confirmed_refunded :
    ∃ t r p, complete (day 1) lateBooking (refusing ReservationChange.confirm.topic) =
      .error (.compensationFailed .confirmReservation (.publish (.refused "reservation.confirmed"))
        [⟨.cancelReservation, .reservation .cancelTooLate⟩]) t ∧
        (refusing ReservationChange.confirm.topic).reservation?
          lateBooking.reservation.reservationId = none ∧
        (refusing ReservationChange.confirm.topic).payment? lateBooking.paymentId = none ∧
        t.reservation? lateBooking.reservation.reservationId = some r ∧ r.status = .confirmed ∧
        t.payment? lateBooking.paymentId = some p ∧ p.status = .refunded := by
  have h : complete (day 1) lateBooking (refusing ReservationChange.confirm.topic) =
      .error (.compensationFailed .confirmReservation (.publish (.refused "reservation.confirmed"))
        [⟨.cancelReservation, .reservation .cancelTooLate⟩]) _ :=
    eq_error_of_outcome (by decide +kernel)
  exact ⟨_, lateBooking.confirmedReservation (day 1), lateBooking.refundedPayment (day 1), h,
    by decide +kernel, by decide +kernel, by decide +kernel, rfl, by decide +kernel, rfl⟩

end Booking
end HotelBooking
