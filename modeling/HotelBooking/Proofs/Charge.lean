import HotelBooking.Proofs.Audit

/-!
# What a failed booking charges

A booking whose compensations succeeded leaves nothing charged, with one exception: the gateway has
captured the amount, and that could not be stored or announced. The step counts as failed then, so
only the reservation is cancelled and nothing is refunded.
-/

namespace HotelBooking

open HotelBooking.Action

/-- The payment is not stored as captured. -/
def Hotel.Uncharged (id : PaymentId) (s : Hotel) : Prop :=
  ∀ p, s.payment? id = some p → p.status ≠ .captured

namespace Hotel.Uncharged

variable {id : PaymentId} {s t : Hotel}

theorem of_payments_eq (h : s.Uncharged id) (ht : t.payments = s.payments) : t.Uncharged id := by
  intro p hp
  rw [payment?, ht] at hp
  exact h p hp

theorem storePayment (h : s.Uncharged id) (other : PaymentId) {q : Payment}
    (hq : q.status ≠ .captured) : (s.storePayment other q).Uncharged id := by
  intro p hp
  rw [payment?_storePayment] at hp
  split_ifs at hp with hid
  · cases hp
    exact hq
  · exact h p hp

theorem offered (h : s.Uncharged id) (e : Envelope) : (s.offered e).Uncharged id := by
  unfold Hotel.offered
  cases s.log.publishError? e.topic with
  | none => exact h.of_payments_eq rfl
  | some err => exact h

end Hotel.Uncharged

namespace Payments

variable (now : Instant) {s : Hotel}

/-- Nothing is stored as captured by authorizing. -/
theorem authorize_uncharged (order : PaymentOrder) (h : s.Uncharged order.paymentId) :
    ((authorize now order).after s).Uncharged order.paymentId := by
  unfold after outcome
  rw [authorize_apply]
  cases s.gateway.authorizeError? with
  | some e =>
      cases s.payments.createError? order.paymentId.text with
      | some err => exact h.of_payments_eq rfl
      | none =>
          have hrejected : (s.rejected .authorize).Uncharged order.paymentId := h.of_payments_eq rfl
          have hstored := hrejected.storePayment order.paymentId
            (q := (Payment.make now order).record (.failed now authorizationFailed e.message)) nofun
          exact hstored.offered _
  | none =>
      have hopened : (s.transactionOpened (.make now order)).Uncharged order.paymentId :=
        h.of_payments_eq rfl
      dsimp only [Hotel.save]
      cases s.payments.createError? order.paymentId.text with
      | some err => exact hopened
      | none =>
          dsimp only
          have hstored := hopened.storePayment order.paymentId
            (q := (Payment.make now order).authorized now
              (Gateway.transactionId order.paymentId order.amount.amount)) nofun
          cases (s.transactionOpened (.make now order)).log.publishError? _ with
          | some err => exact hstored
          | none => exact hstored.of_payments_eq rfl

/-- Nothing is stored as captured when the gateway rejects it. -/
theorem capture_uncharged {id : PaymentId} {e : GatewayError} {p : Payment}
    (hp : s.payment? id = some p)
    (hgateway : s.gateway.captureError? (p.transactionId.getD "") p.amount = some e)
    (h : s.Uncharged id) : ((capture now id).after s).Uncharged id := by
  unfold after outcome
  rw [capture_apply, hp]
  dsimp only
  rw [hgateway]
  dsimp only
  have hrejected : (s.rejected .capture).Uncharged id := h.of_payments_eq rfl
  unfold Hotel.captureFailed
  cases hq : p.fail now captureFailed e.message with
  | error err => exact hrejected
  | ok q =>
      have hstatus : q.status ≠ .captured := by
        rw [(Payment.fail_eq_ok_iff.mp hq).2]
        nofun
      cases (s.rejected .capture).payments.updateError? id.text with
      | none => exact (hrejected.storePayment id hstatus).offered _
      | some err => exact hrejected.offered _

end Payments

namespace Booking

variable {now : Instant} {order : BookingOrder} {s t u : Hotel} {step : BookingStep}
  {e source : OperationError}

theorem failureReport_eq_stepFailed_iff {step' : BookingStep} {failures : List CompensationFailure} :
    failureReport step e failures = .stepFailed step' source ↔
      failures = [] ∧ step = step' ∧ e = source := by
  cases failures with
  | nil => simp [failureReport]
  | cons f fs => simp [failureReport]

variable (now order) in
theorem captureError?_before (h : s.gateway.failsCapture = true) (id : String) (amount : Money) :
    (before now order s .capturePayment).gateway.captureError? id amount =
      some (.unavailable "capture timed out") := by
  have houtages := before_outages now order s .capturePayment
  have hfails : (before now order s .capturePayment).gateway.failsCapture = true :=
    (congrArg Outages.capture houtages).trans h
  unfold Gateway.captureError?
  exact if_pos hfails

/-- A step that fails leaves nothing stored as captured, unless the gateway may have captured it. -/
theorem FailsAt.uncharged (h : FailsAt now order s step e u) (hnew : s.payment? order.paymentId = none)
    (hstep : step ≠ .confirmReservation)
    (hcapture : step = .capturePayment → s.gateway.failsCapture = true) :
    u.Uncharged order.paymentId := by
  have hstart : s.Uncharged order.paymentId := by
    intro p hp
    rw [hnew] at hp
    contradiction
  obtain ⟨t, hreaches, hperform⟩ := h
  have ht := hreaches.eq_before
  have hafter : (perform now order step).after t = u := after_of_error hperform
  rw [← hafter]
  unfold perform
  cases step with
  | createReservation =>
      rw [after_discard, ht]
      exact hstart.of_payments_eq (Reservations.create_moves now Hotel.reservations_keep_payments _ s)
  | authorizePayment =>
      rw [after_discard, ht]
      exact Payments.authorize_uncharged now order.payment (hstart.of_payments_eq rfl)
  | capturePayment =>
      have hpayment := before_capture_payment? now order s
      have hgateway := captureError?_before now order (hcapture rfl)
      have huncharged : (before now order s .capturePayment).Uncharged order.paymentId := by
        intro p hp
        rw [hpayment] at hp
        cases hp
        nofun
      rw [after_discard, ht]
      exact Payments.capture_uncharged now hpayment (hgateway _ _) huncharged
  | confirmReservation => exact absurd rfl hstep

/-- Unless a payment is refunded, the compensations leave it as it is. -/
theorem uncharged_of_compensated {refunds cancellations : List CompensationFailure} {v w : Hotel}
    (hu : u.Uncharged order.paymentId) (hstep : step ≠ .confirmReservation)
    (hrefund : refundCaptured now (capturedBy order step) u = .ok refunds v)
    (hcancel : cancelAfter now step order.reservation.reservationId v = .ok cancellations w) :
    w.Uncharged order.paymentId := by
  obtain ⟨hpayments, -⟩ := cancelAfter_keeps hcancel
  rw [capturedBy_eq_none order hstep] at hrefund
  cases hrefund
  exact hu.of_payments_eq hpayments

variable (order) in
/-- If the gateway has captured the amount, it has refunded it as well. -/
def GivesBack (calls : List GatewayCall) : Prop :=
  ⟨.capture order.transactionId order.reservation.total, true⟩ ∈ calls →
    ⟨.refund order.transactionId order.reservation.total, true⟩ ∈ calls

instance (calls : List GatewayCall) : Decidable (GivesBack order calls) :=
  inferInstanceAs (Decidable (_ → _))

/-- A failed confirmation whose compensations succeeded has given the amount back. -/
theorem FailsAt.refunded {refunds cancellations : List CompensationFailure} {v w : Hotel}
    (h : FailsAt now order s .confirmReservation e u)
    (hrefund : refundCaptured now (capturedBy order .confirmReservation) u = .ok refunds v)
    (hcancel : cancelAfter now .confirmReservation order.reservation.reservationId v =
      .ok cancellations w)
    (hnone : refunds ++ cancellations = []) :
    w.Uncharged order.paymentId ∧ s.gateway.failsRefund = false := by
  have hundone := h.undone nofun hrefund hcancel
  have hactions := hundone.actions
  have hpayment := hundone.payment rfl
  have hspoil : s.outages.spoilRefund = false := by
    cases hs : s.outages.spoilRefund with
    | false => rfl
    | true =>
        rw [hnone, hs, if_pos ⟨rfl, rfl⟩] at hactions
        contradiction
  have hfails : s.gateway.failsRefund = false := (Bool.or_eq_false_iff.mp hspoil).1
  refine ⟨?_, hfails⟩
  intro p hp
  rw [hp, Hotel.outages_refund, hfails] at hpayment
  cases hpayment
  nofun

/-- When a booking fails and nothing is reported about its compensations, nothing is charged, unless
it failed to capture the amount though the gateway did capture it. -/
theorem uncharged_iff (hnew : s.payment? order.paymentId = none)
    (h : complete now order s = .error (.stepFailed step source) t) :
    (t.Uncharged order.paymentId ∧ GivesBack order (gatewayCalls now order s)) ↔
      ¬ (step = .capturePayment ∧ s.gateway.failsCapture = false) := by
  have hcalls := gatewayCalls_of_error h rfl
  obtain ⟨step', source', u, refunds, v, cancellations, w, hfails, hrefund, hcancel, herr, rfl⟩ :=
    complete_eq_error h
  obtain ⟨hnone, rfl, rfl⟩ := failureReport_eq_stepFailed_iff.mp herr.symm
  have hkept (hstep : step' ≠ .confirmReservation) (hu : u.Uncharged order.paymentId) :
      w.Uncharged order.paymentId :=
    uncharged_of_compensated hu hstep hrefund hcancel
  unfold GivesBack
  rw [hcalls]
  cases step' with
  | createReservation =>
      have hw := hkept nofun (hfails.uncharged hnew nofun nofun)
      refine ⟨fun _ => nofun, fun _ => ⟨hw.of_payments_eq rfl, ?_⟩⟩
      simp [BookingStep.earlier, stepCalls]
  | authorizePayment =>
      have hw := hkept nofun (hfails.uncharged hnew nofun nofun)
      refine ⟨fun _ => nofun, fun _ => ⟨hw.of_payments_eq rfl, ?_⟩⟩
      simp [BookingStep.earlier, stepCalls]
  | capturePayment =>
      cases hworks : s.gateway.failsCapture with
      | true =>
          have hw := hkept nofun (hfails.uncharged hnew nofun fun _ => hworks)
          refine ⟨fun _ => nofun, fun _ => ⟨hw.of_payments_eq rfl, ?_⟩⟩
          simp [BookingStep.earlier, stepCalls, hworks]
      | false =>
          constructor
          · rintro ⟨-, hback⟩
            simp [BookingStep.earlier, stepCalls, hworks] at hback
          · intro hstep
            exact absurd ⟨rfl, rfl⟩ hstep
  | confirmReservation =>
      obtain ⟨hw, hrefund⟩ := hfails.refunded hrefund hcancel hnone
      refine ⟨fun _ => nofun, fun _ => ⟨hw.of_payments_eq rfl, ?_⟩⟩
      intro _
      have hworks : s.gateway.failsRefund = false := hrefund
      simp [BookingStep.earlier, stepCalls, hworks]

/-- Envelopes on the topic are refused. -/
def refusing (topic : String) : Hotel where
  log := { refused := {topic} }

open Sample

set_option maxRecDepth 10000 in
theorem unconfirmed_uncharged :
    ∃ t, complete (day 1) booking (refusing ReservationChange.confirm.topic) =
      .error (.stepFailed .confirmReservation (.publish (.refused "reservation.confirmed"))) t ∧
        t.Uncharged booking.paymentId ∧
          GivesBack booking
            (gatewayCalls (day 1) booking (refusing ReservationChange.confirm.topic)) := by
  have hnew : (refusing ReservationChange.confirm.topic).payment? booking.paymentId = none := by
    decide +kernel
  have h : complete (day 1) booking (refusing ReservationChange.confirm.topic) =
      .error (.stepFailed .confirmReservation (.publish (.refused "reservation.confirmed"))) _ :=
    eq_error_of_outcome (by decide +kernel)
  exact ⟨_, h, (uncharged_iff hnew h).mpr nofun⟩

set_option maxRecDepth 10000 in
/-- The amount is captured and stays so, though no compensation is reported to have failed. -/
theorem unannounced_capture_charged :
    ∃ t p, complete (day 1) booking (refusing Settlement.captured.topic) =
      .error (.stepFailed .capturePayment (.publish (.refused "payment.captured"))) t ∧
        (refusing Settlement.captured.topic).payment? booking.paymentId = none ∧
          t.payment? booking.paymentId = some p ∧ p.status = .captured ∧
            ¬ GivesBack booking
              (gatewayCalls (day 1) booking (refusing Settlement.captured.topic)) := by
  have h : complete (day 1) booking (refusing Settlement.captured.topic) =
      .error (.stepFailed .capturePayment (.publish (.refused "payment.captured"))) _ :=
    eq_error_of_outcome (by decide +kernel)
  exact ⟨_, booking.capturedPayment (day 1), h, by decide +kernel, by decide +kernel, rfl,
    by decide +kernel⟩

end Booking
end HotelBooking
