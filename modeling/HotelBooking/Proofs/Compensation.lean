import HotelBooking.Proofs.Steps

/-!
# How a failed booking is undone

When a step fails, the refund and the cancellation can fail in turn, each for reasons that are there
from the start: an outage, or a check-in that is too close. They may have taken effect all the same,
when only their announcement is refused.
-/

namespace HotelBooking

open HotelBooking.Action

namespace Outages

/-- The refund of a payment is reported as failed. -/
def spoilRefund (o : Outages) : Bool := o.refund || o.topics.contains Settlement.refunded.topic

/-- The cancellation of a reservation is reported as failed, though it is early enough. -/
def spoilCancellation (o : Outages) : Bool :=
  o.reservationChanges || o.topics.contains ReservationEvent.cancelledTopic

end Outages

namespace BookingOrder

/-- Check-in is too close for the reservation to be cancelled. -/
def isTooLate (now : Instant) (order : BookingOrder) : Bool :=
  now.nanosTo order.reservation.stay.checkIn < Reservation.cancellationHours * Instant.nanosPerHour

theorem isCancellableAt_eq (now : Instant) (order : BookingOrder) {r : Reservation}
    (hstay : r.stay = order.reservation.stay) (hstatus : r.status.isCancellable = true) :
    r.isCancellableAt now = !order.isTooLate now := by
  rw [Reservation.isCancellableAt, hstatus, hstay, isTooLate, Bool.true_and, ← decide_not]
  exact decide_eq_decide.mpr Int.not_lt.symm

/-- The reservation that a failed step leaves: a confirmed one if only the announcement failed. -/
def leftBy (now : Instant) (order : BookingOrder) : BookingStep → OperationError → Reservation
  | .confirmReservation, .publish _ => order.confirmedReservation now
  | _, _ => order.pendingReservation now

section
variable (now : Instant) (order : BookingOrder) (step : BookingStep) (e : OperationError)

theorem leftBy_eq : order.leftBy now step e = order.pendingReservation now ∨
    order.leftBy now step e = order.confirmedReservation now := by
  unfold leftBy
  split
  · exact .inr rfl
  · exact .inl rfl

theorem leftBy_stay : (order.leftBy now step e).stay = order.reservation.stay := by
  rcases order.leftBy_eq now step e with h | h
  · rw [h]
    rfl
  · rw [h]
    rfl

theorem leftBy_isCancellable : (order.leftBy now step e).status.isCancellable = true := by
  rcases order.leftBy_eq now step e with h | h
  · rw [h]
    rfl
  · rw [h]
    rfl

end

end BookingOrder

theorem BookingStep.exists_cancellationReason {step : BookingStep} (h : step ≠ .createReservation) :
    ∃ reason, step.cancellationReason = some reason := by
  cases step with
  | createReservation => exact absurd rfl h
  | authorizePayment => exact ⟨_, rfl⟩
  | capturePayment => exact ⟨_, rfl⟩
  | confirmReservation => exact ⟨_, rfl⟩

namespace Booking

variable (now : Instant)

theorem refundCaptured_apply (id : PaymentId) (s : Hotel) :
    refundCaptured now (some id) s = match Payments.refund now id s with
      | .ok _ t => .ok [] (t.counted (.compensations .refundPayment true))
      | .error e t =>
        .ok [⟨.refundPayment, e⟩] (t.counted (.compensations .refundPayment false)) := by
  simp only [refundCaptured, bind_apply, attempt_apply]
  cases Payments.refund now id s <;> rfl

theorem cancelAfter_apply {step : BookingStep} {reason : String}
    (hreason : step.cancellationReason = some reason) (id : ReservationId) (s : Hotel) :
    cancelAfter now step id s = match Reservations.cancel now id reason s with
      | .ok _ t => .ok [] (t.counted (.compensations .cancelReservation true))
      | .error e t =>
        .ok [⟨.cancelReservation, e⟩] (t.counted (.compensations .cancelReservation false)) := by
  simp only [cancelAfter, hreason, bind_apply, attempt_apply]
  cases Reservations.cancel now id reason s <;> rfl

theorem refundCaptured_after (id : PaymentId) (s : Hotel) :
    ∃ m, (refundCaptured now (some id)).after s = ((Payments.refund now id).after s).counted m := by
  unfold after outcome
  rw [refundCaptured_apply]
  cases Payments.refund now id s with
  | ok p t => exact ⟨_, rfl⟩
  | error e t => exact ⟨_, rfl⟩

theorem cancelAfter_after {step : BookingStep} {reason : String}
    (hreason : step.cancellationReason = some reason) (id : ReservationId) (s : Hotel) :
    ∃ m, (cancelAfter now step id).after s =
      ((Reservations.cancel now id reason).after s).counted m := by
  unfold after outcome
  rw [cancelAfter_apply now hreason]
  cases Reservations.cancel now id reason s with
  | ok r t => exact ⟨_, rfl⟩
  | error e t => exact ⟨_, rfl⟩

/-- Both compensations are tried, and the failure of the step is reported with theirs. -/
theorem compensate_apply {α : Type} (step : BookingStep) (source : OperationError)
    (id : ReservationId) (captured : Option PaymentId) (s : Hotel) :
    ∃ refunds t cancellations u, refundCaptured now captured s = .ok refunds t ∧
      cancelAfter now step id t = .ok cancellations u ∧
        (compensate now step source id captured : Action Hotel _ α) s =
          .error (failureReport step source (refunds ++ cancellations)) u := by
  have hrefund : ∃ refunds t, refundCaptured now captured s = .ok refunds t := by
    cases captured with
    | none => exact ⟨[], s, rfl⟩
    | some id =>
        rw [refundCaptured_apply]
        cases Payments.refund now id s with
        | ok p t => exact ⟨_, _, rfl⟩
        | error e t => exact ⟨_, _, rfl⟩
  have hcancel (t : Hotel) : ∃ cancellations u, cancelAfter now step id t = .ok cancellations u := by
    cases hreason : step.cancellationReason with
    | none => exact ⟨[], t, by simp only [cancelAfter, hreason, pure_apply]⟩
    | some reason =>
        rw [cancelAfter_apply now hreason]
        cases Reservations.cancel now id reason t with
        | ok r u => exact ⟨_, _, rfl⟩
        | error e u => exact ⟨_, _, rfl⟩
  obtain ⟨refunds, t, ht⟩ := hrefund
  obtain ⟨cancellations, u, hu⟩ := hcancel t
  refine ⟨refunds, t, cancellations, u, ht, hu, ?_⟩
  rw [compensate_eq, bind_ok _ ht, bind_ok _ hu, throw_apply]

/-- A captured payment is refunded unless the gateway is out; whether that can be announced makes no
difference. -/
theorem refundCaptured_spec {id : PaymentId} {p : Payment} {s : Hotel} (hp : s.payment? id = some p)
    (hstatus : p.status = .captured)
    (hopen : s.gateway.transactions[p.transactionId.getD ""]? = some p.amount)
    (hupdate : s.outages.paymentChanges = false) :
    ∃ failures t, refundCaptured now (some id) s = .ok failures t ∧
      failures.map (·.action) = (if s.outages.spoilRefund then [.refundPayment] else []) ∧
        t.payment? id =
          some (if s.outages.refund then p else p.record (.succeeded now .refunded)) ∧
          t.gateway.refundCalls = s.gateway.refundCalls + 1 := by
  have hstore : s.payments.updateError? id.text = none :=
    (Table.updateError?_eq_none_iff hp).mpr hupdate
  have hrefund : p.refund now = .ok (p.record (.succeeded now .refunded)) :=
    Payment.refund_eq_ok_iff.mpr ⟨hstatus, rfl⟩
  rw [refundCaptured_apply, Payments.refund_apply, hp]
  dsimp only
  unfold Outages.spoilRefund
  cases hout : s.outages.refund with
  | true =>
      have herror : s.gateway.refundError? (p.transactionId.getD "") =
          some (.unavailable "refund rejected") := by
        unfold Gateway.refundError?
        exact if_pos hout
      rw [herror]
      exact ⟨_, _, rfl, rfl, hp, rfl⟩
  | false =>
      have herror : s.gateway.refundError? (p.transactionId.getD "") = none := by
        unfold Gateway.refundError?
        rw [hopen]
        exact if_neg (Bool.eq_false_iff.mp hout)
      rw [herror, hrefund, hstore]
      dsimp only [Hotel.save]
      have hlog : (s.transactionRefunded (p.transactionId.getD "")).log.publishError?
          (PaymentEvent.toEnvelope now
            (.ofSettled .refunded (p.record (.succeeded now .refunded)))).topic =
          if s.outages.topics.contains Settlement.refunded.topic then
            some (.refused Settlement.refunded.topic) else none := rfl
      rw [hlog]
      cases s.outages.topics.contains Settlement.refunded.topic with
      | true => exact ⟨_, _, rfl, rfl, by simp [Hotel.payment?_storePayment], rfl⟩
      | false => exact ⟨_, _, rfl, rfl, by simp [Hotel.payment?_storePayment], rfl⟩

/-- A reservation that waits or is confirmed is cancelled if that is early enough and can be stored;
whether it can be announced makes no difference. -/
theorem cancelAfter_spec {step : BookingStep} {reason : String}
    (hreason : step.cancellationReason = some reason) {order : BookingOrder} {id : ReservationId}
    {r : Reservation} {s : Hotel} (hr : s.reservation? id = some r)
    (hstay : r.stay = order.reservation.stay) (hstatus : r.status.isCancellable = true) :
    ∃ failures t, cancelAfter now step id s = .ok failures t ∧
      failures.map (·.action) =
        (if order.isTooLate now || s.outages.spoilCancellation then [.cancelReservation] else []) ∧
        t.reservation? id = some
          (if order.isTooLate now || s.outages.reservationChanges then r
            else r.cancelled now reason) := by
  have hlate := order.isCancellableAt_eq now hstay hstatus
  rw [cancelAfter_apply now hreason, Reservations.cancel, Reservations.modify_apply, hr]
  dsimp only
  unfold Outages.spoilCancellation
  cases hl : order.isTooLate now with
  | true =>
      rw [hl] at hlate
      cases hcancel : r.cancel now reason with
      | ok r' =>
          have := (Reservation.cancel_eq_ok_iff.mp hcancel).1
          rw [hlate] at this
          contradiction
      | error e => exact ⟨_, _, rfl, rfl, hr⟩
  | false =>
      rw [hl] at hlate
      have hcancel : r.cancel now reason = .ok (r.cancelled now reason) :=
        Reservation.cancel_eq_ok_iff.mpr ⟨hlate, rfl⟩
      rw [hcancel]
      dsimp only
      cases hout : s.outages.reservationChanges with
      | true =>
          have hupdate : s.reservations.updateError? id.text = some s.reservations.refusal := by
            unfold Table.updateError?
            exact if_pos hout
          rw [hupdate]
          exact ⟨_, _, rfl, rfl, hr⟩
      | false =>
          have hupdate : s.reservations.updateError? id.text = none :=
            (Table.updateError?_eq_none_iff hr).mpr hout
          have hlog : s.log.publishError?
              (ReservationEvent.ofCancelled (r.cancelled now reason)).topic =
              if s.outages.topics.contains ReservationEvent.cancelledTopic then
                some (.refused ReservationEvent.cancelledTopic) else none := rfl
          rw [hupdate, hlog]
          cases s.outages.topics.contains ReservationEvent.cancelledTopic with
          | true => exact ⟨_, _, rfl, rfl, by simp [Hotel.reservation?_storeReservation]⟩
          | false => exact ⟨_, _, rfl, rfl, by simp [Hotel.reservation?_storeReservation]⟩

/-- No step asks for a refund. -/
theorem perform_keeps_refundCalls (order : BookingOrder) (step : BookingStep) :
    (perform now order step : Action Hotel _ _).Moves (Same fun s => s.gateway.refundCalls) := by
  let R := Same fun s : Hotel => s.gateway.refundCalls
  have hrecords : Backend.PaymentRecordsMove R :=
    Hotel.paymentRecordsMove_of (fun _ _ _ => rfl) (fun _ _ => rfl) fun _ _ => rfl
  have hreservations : Backend.ReservationsMove R :=
    Hotel.reservations_keep _ (fun _ _ _ => rfl) fun _ _ => rfl
  have hauthorize (p : Payment) : (Backend.authorize p : Action Hotel _ _).Moves R := by
    intro s
    rw [after, outcome, Hotel.authorize_apply]
    cases s.gateway.authorizeError? <;> rfl
  have hcapture (id : String) (amount : Money) :
      (Backend.capture id amount : Action Hotel _ _).Moves R := by
    intro s
    rw [after, outcome, Hotel.capture_apply]
    cases s.gateway.captureError? id amount <;> rfl
  cases step with
  | createReservation => exact (Reservations.create_moves now hreservations _).bind fun _ => .pure _
  | authorizePayment =>
      exact (Payments.authorize_moves now hrecords hauthorize _).bind fun _ => .pure _
  | capturePayment => exact (Payments.capture_moves now hrecords hcapture _).bind fun _ => .pure _
  | confirmReservation =>
      exact (Reservations.modify_moves now hreservations _ _ _).bind fun _ => .pure _

namespace FailsAt

variable {now} {order : BookingOrder} {s u : Hotel} {step : BookingStep} {e : OperationError}

theorem outages (h : FailsAt now order s step e u) : u.outages = s.outages := by
  obtain ⟨t, hreaches, hperform⟩ := h
  have hstep : u.outages = t.outages :=
    (perform_moves now order Hotel.services_keep_outages step).of_error hperform
  rw [hstep, hreaches.eq_before, before_outages]

theorem reservation? (h : FailsAt now order s step e u) (hstep : step ≠ .createReservation) :
    u.reservation? order.reservation.reservationId = some (order.leftBy now step e) := by
  obtain ⟨t, hreaches, hperform⟩ := h
  have hbefore : t.reservation? order.reservation.reservationId =
      some (order.pendingReservation now) := by
    rw [hreaches.eq_before]
    exact before_reservation? now order s hstep
  have hpayments := Hotel.payments_keep_reservations
  have hkept (hsame : u.reservations = t.reservations) :
      u.reservation? order.reservation.reservationId = some (order.pendingReservation now) := by
    rw [Hotel.reservation?, hsame]
    exact hbefore
  unfold perform at hperform
  cases step with
  | createReservation => exact absurd rfl hstep
  | authorizePayment =>
      rw [discard_eq_error_iff] at hperform
      exact hkept ((Payments.authorize_moves now hpayments.toPaymentRecordsMove
        hpayments.authorize order.payment).of_error hperform)
  | capturePayment =>
      rw [discard_eq_error_iff] at hperform
      exact hkept ((Payments.capture_moves now hpayments.toPaymentRecordsMove
        hpayments.capture order.paymentId).of_error hperform)
  | confirmReservation =>
      have hchange : (order.pendingReservation now).change now .confirm =
          .ok (order.confirmedReservation now) := rfl
      rw [discard_eq_error_iff] at hperform
      rcases Reservations.modify_eq_error now t hbefore hchange hperform with
        ⟨err, rfl, rfl⟩ | ⟨err, rfl, rfl⟩
      · exact hbefore
      · rw [Hotel.reservation?_storeReservation]
        exact if_pos rfl

/-- When the reservation cannot be confirmed, the payment is captured and the amount still open. -/
theorem captured (h : FailsAt now order s .confirmReservation e u) :
    u.payment? order.paymentId = some (order.capturedPayment now) ∧
      u.gateway.transactions[order.transactionId]? = some order.reservation.total ∧
        u.outages.paymentChanges = false := by
  have houtages := h.outages
  obtain ⟨t, hreaches, hperform⟩ := h
  unfold perform at hperform
  rw [discard_eq_error_iff] at hperform
  have hpayments : u.payments = t.payments :=
    (Reservations.modify_moves now Hotel.reservations_keep_payments _ _ _).of_error hperform
  have hgateway : u.gateway = t.gateway :=
    (Reservations.modify_moves now Hotel.reservations_keep_gateway _ _ _).of_error hperform
  have ht := hreaches.eq_before
  refine ⟨?_, ?_, ?_⟩
  · rw [Hotel.payment?, hpayments, ht]
    exact before_confirm_payment? now order s
  · rw [hgateway, ht]
    exact before_transactions now order s (.inr rfl)
  · have hcapture : Feasible now order s .capturePayment := hreaches.feasible (by decide)
    rw [houtages]
    exact hcapture.2.1

theorem refundCalls (h : FailsAt now order s step e u) :
    u.gateway.refundCalls = s.gateway.refundCalls := by
  obtain ⟨t, hreaches, hperform⟩ := h
  have hbefore : t.gateway.refundCalls = s.gateway.refundCalls := by
    rw [hreaches.eq_before]
    cases step <;> rfl
  have hstep : u.gateway.refundCalls = t.gateway.refundCalls :=
    (perform_keeps_refundCalls now order step).of_error hperform
  rw [hstep, hbefore]

end FailsAt

theorem failureReport_step? (step : BookingStep) (source : OperationError)
    (failures : List CompensationFailure) :
    (failureReport step source failures).step? = some step := by
  cases failures <;> rfl

/-- The state at which a booking ended in an error, before that is counted. -/
theorem complete_eq_error {now : Instant} {order : BookingOrder} {s t : Hotel} {err : BookingError}
    (h : complete now order s = .error err t) :
    ∃ step source u refunds v cancellations w,
      FailsAt now order (s.counted .executions) step source u ∧
        refundCaptured now (capturedBy order step) u = .ok refunds v ∧
          cancelAfter now step order.reservation.reservationId v = .ok cancellations w ∧
            err = failureReport step source (refunds ++ cancellations) ∧
              t = (w.counted .durations).counted (.failed (some step)) := by
  rw [complete_apply] at h
  rcases run_cases now order (s.counted .executions) with
    ⟨t', u, hreaches, hperform, hrun⟩ | ⟨step, source, u, hfails, hrun⟩
  · obtain ⟨-, n, hfinish⟩ := finish_of_reaches now order hreaches hperform
    rw [hrun, hfinish] at h
    cases h
  · obtain ⟨refunds, v, cancellations, w, hrefund, hcancel, hcompensate⟩ :=
      compensate_apply now step source order.reservation.reservationId (capturedBy order step) u
    rw [hrun, hcompensate] at h
    cases h
    refine ⟨step, source, u, refunds, v, cancellations, w, hfails, hrefund, hcancel, rfl, ?_⟩
    rw [failureReport_step?]

section
variable {now} {order : BookingOrder} {s t : Hotel}

theorem refundCaptured_keeps {captured : Option PaymentId} {refunds : List CompensationFailure}
    (h : refundCaptured now captured s = .ok refunds t) :
    t.reservations = s.reservations ∧ t.outages = s.outages := by
  have hreservations := Hotel.payments_keep_reservations
  have houtages := Hotel.services_keep_outages
  constructor
  · exact (refundCaptured_moves now hreservations.count (Payments.refund_moves now
      hreservations.toPaymentRecordsMove hreservations.refund) captured).of_ok h
  · exact (refundCaptured_moves now houtages.count (houtages.refund now) captured).of_ok h

theorem cancelAfter_keeps {step : BookingStep} {id : ReservationId}
    {cancellations : List CompensationFailure} (h : cancelAfter now step id s = .ok cancellations t) :
    t.payments = s.payments ∧ t.gateway = s.gateway := by
  have hpayments := Hotel.reservations_keep_payments
  have hgateway := Hotel.reservations_keep_gateway
  constructor
  · exact (cancelAfter_moves now (fun _ _ => rfl)
      (fun id _ => Reservations.modify_moves now hpayments id _ _) step id).of_ok h
  · exact (cancelAfter_moves now (fun _ _ => rfl)
      (fun id _ => Reservations.modify_moves now hgateway id _ _) step id).of_ok h

/-- How it ends when `step` fails with the error `source`: which compensations fail, and what is
stored. -/
structure Undone (now : Instant) (order : BookingOrder) (s : Hotel) (step : BookingStep)
    (source : OperationError) (failures : List CompensationFailure) (t : Hotel) : Prop where
  actions : failures.map (·.action) =
    (if step = .confirmReservation ∧ s.outages.spoilRefund = true then [.refundPayment] else []) ++
      (if order.isTooLate now || s.outages.spoilCancellation then [.cancelReservation] else [])
  refundCalls : t.gateway.refundCalls =
    s.gateway.refundCalls + if step = .confirmReservation then 1 else 0
  reservation : ∃ reason, step.cancellationReason = some reason ∧
    t.reservation? order.reservation.reservationId = some
      (if order.isTooLate now || s.outages.reservationChanges then order.leftBy now step source
        else (order.leftBy now step source).cancelled now reason)
  payment : step = .confirmReservation → t.payment? order.paymentId =
    some (if s.outages.refund then order.capturedPayment now else order.refundedPayment now)

/-- The compensations of a failed step, from what it left. -/
theorem FailsAt.undone {step : BookingStep} {source : OperationError} {u v w : Hotel}
    {refunds cancellations : List CompensationFailure} (h : FailsAt now order s step source u)
    (hlater : step ≠ .createReservation)
    (hrefund : refundCaptured now (capturedBy order step) u = .ok refunds v)
    (hcancel : cancelAfter now step order.reservation.reservationId v = .ok cancellations w) :
    Undone now order s step source (refunds ++ cancellations) w := by
  obtain ⟨hreservations, houtages⟩ := refundCaptured_keeps hrefund
  obtain ⟨hpayments, hgateway⟩ := cancelAfter_keeps hcancel
  have hvs : v.outages = s.outages := houtages.trans h.outages
  have hleft : v.reservation? order.reservation.reservationId =
      some (order.leftBy now step source) := by
    rw [Hotel.reservation?, hreservations]
    exact h.reservation? hlater
  obtain ⟨reason, hreason⟩ := BookingStep.exists_cancellationReason hlater
  obtain ⟨failures, w', hw, hcancelled, hstored⟩ := cancelAfter_spec now hreason hleft
    (order.leftBy_stay now step source) (order.leftBy_isCancellable now step source)
  rw [hcancel] at hw
  cases hw
  rw [hvs] at hcancelled hstored
  by_cases hstep : step = .confirmReservation
  · subst hstep
    obtain ⟨hpayment, hopen, hupdate⟩ := h.captured
    obtain ⟨failures, v', hv, hrefunded, hpaid, hcalls⟩ :=
      refundCaptured_spec now hpayment rfl hopen hupdate
    change refundCaptured now (some order.paymentId) u = .ok refunds v at hrefund
    rw [hrefund] at hv
    cases hv
    rw [h.outages] at hrefunded hpaid
    refine ⟨?_, ?_, ⟨reason, hreason, hstored⟩, fun _ => ?_⟩
    · rw [List.map_append, hrefunded, hcancelled]
      simp
    · rw [hgateway, hcalls, h.refundCalls]
      simp
    · rw [Hotel.payment?, hpayments]
      exact hpaid
  · rw [capturedBy_eq_none order hstep] at hrefund
    cases hrefund
    refine ⟨?_, ?_, ⟨reason, hreason, hstored⟩, fun hc => absurd hc hstep⟩
    · rw [List.nil_append, hcancelled]
      simp [hstep]
    · rw [hgateway, h.refundCalls]
      simp [hstep]

/-- When a booking fails at its second step or later, the error is that of the step, with the
compensations that failed: those that an outage, a refused announcement or a check-in too close by
makes fail. The reservation is cancelled if that is early enough and can be stored. -/
theorem complete_undone {step : BookingStep} {err : BookingError}
    (h : complete now order s = .error err t) (hstep : err.step? = some step)
    (hlater : step ≠ .createReservation) :
    ∃ source u failures, FailsAt now order (s.counted .executions) step source u ∧
      err = failureReport step source failures ∧ Undone now order s step source failures t := by
  obtain ⟨step', source, u, refunds, v, cancellations, w, hfails, hrefund, hcancel, rfl, rfl⟩ :=
    complete_eq_error h
  rw [failureReport_step?] at hstep
  cases hstep
  have hundone := hfails.undone hlater hrefund hcancel
  exact ⟨source, u, refunds ++ cancellations, hfails, rfl,
    ⟨hundone.actions, hundone.refundCalls, hundone.reservation, hundone.payment⟩⟩

end

/-- Reservations cannot be changed and refunds cannot be announced. -/
def halfBroken : Hotel where
  reservations := { entity := "Reservation", refusesUpdate := true }
  log := { refused := {Settlement.refunded.topic} }

open Sample in
set_option maxRecDepth 10000 in
/-- The refund takes effect and is reported as failed, the cancellation is not even stored. -/
theorem halfBroken_undone :
    ∃ err t source u failures, complete (day 1) booking halfBroken = .error err t ∧
      err.step? = some .confirmReservation ∧
        FailsAt (day 1) booking (halfBroken.counted .executions) .confirmReservation source u ∧
          err = failureReport .confirmReservation source failures ∧
            failures.map (·.action) = [.refundPayment, .cancelReservation] ∧
              Undone (day 1) booking halfBroken .confirmReservation source failures t := by
  have herror : ((complete (day 1) booking).outcome halfBroken).1 =
      .error (.compensationFailed .confirmReservation
        (.storage (.unavailable "Reservation storage unavailable"))
        [⟨.refundPayment, .publish (.refused "payment.refunded")⟩,
          ⟨.cancelReservation, .storage (.unavailable "Reservation storage unavailable")⟩]) := by
    decide +kernel
  have h := eq_error_of_outcome herror
  obtain ⟨source, u, failures, hfails, herr, hundone⟩ := complete_undone h rfl nofun
  have hfailures : failures.map (·.action) = [.refundPayment, .cancelReservation] := by
    rw [hundone.actions]
    decide +kernel
  exact ⟨_, _, source, u, failures, h, rfl, hfails, herr, hfailures, hundone⟩

end Booking
end HotelBooking
