import HotelBooking.Proofs.Parts
import HotelBooking.Proofs.Services

/-!
# What the services leave alone

On the system in memory, the operations on reservations change nothing but the reservations and the
log, and those on payments nothing but the payments, the gateway, the log and the counters. No
service begins or ends an outage.
-/

namespace HotelBooking.Hotel

open HotelBooking.Action

variable {R : Hotel → Hotel → Prop} [Std.Refl R]

theorem readReservation_moves (id : ReservationId) :
    (Backend.readReservation id : Action Hotel _ _).Moves R := by
  intro s
  rw [after, outcome, readReservation_apply]
  cases s.reservation? id with
  | none => exact Std.Refl.refl s
  | some r => exact Std.Refl.refl s

theorem readPayment_moves (id : PaymentId) : (Backend.readPayment id : Action Hotel _ _).Moves R := by
  intro s
  rw [after, outcome, readPayment_apply]
  cases s.payment? id with
  | none => exact Std.Refl.refl s
  | some p => exact Std.Refl.refl s

theorem reservationsMove_of (hstore : ∀ s id r, R s (s.storeReservation id r))
    (hpublish : ∀ s e, R s (s.published e)) : Backend.ReservationsMove R where
  read := readReservation_moves
  readAll s := Std.Refl.refl s
  create id r s := by
    rw [after, outcome, createReservation_apply]
    cases s.reservations.createError? id.text with
    | none => exact hstore s id r
    | some e => exact Std.Refl.refl s
  update id r s := by
    rw [after, outcome, updateReservation_apply]
    cases s.reservations.updateError? id.text with
    | none => exact hstore s id r
    | some e => exact Std.Refl.refl s
  isRoomAvailable roomId stay s := Std.Refl.refl s
  publish e s := by
    rw [after, outcome, publish_apply]
    cases s.log.publishError? e.topic with
    | none => exact hpublish s e
    | some err => exact Std.Refl.refl s

theorem paymentRecordsMove_of (hstore : ∀ s id p, R s (s.storePayment id p))
    (hpublish : ∀ s e, R s (s.published e)) (hcount : ∀ s m, R s (s.counted m)) :
    Backend.PaymentRecordsMove R where
  read := readPayment_moves
  create id p s := by
    rw [after, outcome, createPayment_apply]
    cases s.payments.createError? id.text with
    | none => exact hstore s id p
    | some e => exact Std.Refl.refl s
  update id p s := by
    rw [after, outcome, updatePayment_apply]
    cases s.payments.updateError? id.text with
    | none => exact hstore s id p
    | some e => exact Std.Refl.refl s
  publish e s := by
    rw [after, outcome, publish_apply]
    cases s.log.publishError? e.topic with
    | none => exact hpublish s e
    | some err => exact Std.Refl.refl s
  count m s := hcount s m

theorem paymentsMove_of (hstore : ∀ s id p, R s (s.storePayment id p))
    (hgateway : ∀ (s : Hotel) (g : Gateway), g.failsAuthorize = s.gateway.failsAuthorize →
      g.failsCapture = s.gateway.failsCapture → g.failsRefund = s.gateway.failsRefund →
      R s (s.withGateway g))
    (hpublish : ∀ s e, R s (s.published e)) (hcount : ∀ s m, R s (s.counted m)) :
    Backend.PaymentsMove R where
  toPaymentRecordsMove := paymentRecordsMove_of hstore hpublish hcount
  authorize p s := by
    rw [after, outcome, authorize_apply]
    cases s.gateway.authorizeError? <;> exact hgateway s _ (by simp) (by simp) (by simp)
  capture id amount s := by
    rw [after, outcome, capture_apply]
    cases s.gateway.captureError? id amount <;> exact hgateway s _ (by simp) (by simp) (by simp)
  refund id amount s := by
    rw [after, outcome, refund_apply]
    cases s.gateway.refundError? id <;> exact hgateway s _ (by simp) (by simp) (by simp)

omit [Std.Refl R] in
theorem onNotifier_send_moves (h : ∀ (s : Hotel) (n : Notifier), n.isDown = s.notifier.isDown →
      R s { s with notifier := n }) (notice : Except NoticeError Notice) :
    (onNotifier (Notifier.send notice)).Moves R := by
  intro s
  rw [onNotifier_after, Notifier.send_after]
  exact h s _ rfl

section
variable [IsTrans Hotel R] (h : ∀ (s : Hotel) (n : Notifier), n.isDown = s.notifier.isDown →
  R s { s with notifier := n })
include h

theorem notifyConfirmation_moves (r : Reservation) :
    (Booking.notifyConfirmation r : Action Hotel _ _).Moves R :=
  (onNotifier_send_moves h _).attempt.bind fun _ => .pure _

theorem notifyCancellation_moves (r : Reservation) (reason : String) :
    (Booking.notifyCancellation r reason : Action Hotel _ _).Moves R :=
  (onNotifier_send_moves h _).attempt.bind fun _ => .pure _

end

/-- What holds of each change that a part can go through holds of every service. -/
theorem servicesMove_of {R : Hotel → Hotel → Prop} [IsPreorder Hotel R]
    (hreservation : ∀ s id r, R s (s.storeReservation id r))
    (hpayment : ∀ s id p, R s (s.storePayment id p))
    (hgateway : ∀ (s : Hotel) (g : Gateway), g.failsAuthorize = s.gateway.failsAuthorize →
      g.failsCapture = s.gateway.failsCapture → g.failsRefund = s.gateway.failsRefund →
      R s (s.withGateway g))
    (hpublish : ∀ s e, R s (s.published e)) (hcount : ∀ s m, R s (s.counted m))
    (hnotifier : ∀ (s : Hotel) (n : Notifier), n.isDown = s.notifier.isDown →
      R s { s with notifier := n }) : Booking.ServicesMove R :=
  Booking.servicesMove_of (reservationsMove_of hreservation hpublish)
    (paymentsMove_of hpayment hgateway hpublish hcount)
    (fun _ => onNotifier_send_moves hnotifier _) (fun _ _ => onNotifier_send_moves hnotifier _)

theorem services_keep_outages : Booking.ServicesMove (Same outages) := by
  refine servicesMove_of (fun _ _ _ => rfl) (fun _ _ _ => rfl) ?_ (fun _ _ => rfl)
    (fun _ _ => rfl) ?_
  · intro s g ha hc hr
    simp only [Same, outages, withGateway, ha, hc, hr]
  · intro s n hn
    simp only [Same, outages, hn]

theorem payments_keep_reservations : Backend.PaymentsMove (Same reservations) :=
  paymentsMove_of (fun _ _ _ => rfl) (fun _ _ _ _ _ => rfl) (fun _ _ => rfl) (fun _ _ => rfl)

section
variable (now : Instant) (s : Hotel)

theorem authorize_reservations (order : PaymentOrder) :
    ((Payments.authorize now order).after s).reservations = s.reservations :=
  Payments.authorize_moves now payments_keep_reservations.toPaymentRecordsMove
    payments_keep_reservations.authorize order s

theorem capture_reservations (id : PaymentId) :
    ((Payments.capture now id).after s).reservations = s.reservations :=
  Payments.capture_moves now payments_keep_reservations.toPaymentRecordsMove
    payments_keep_reservations.capture id s

/-- Telling the guest of the confirmation does not change the reservations. -/
theorem onCaptured_reservations (id : ReservationId) :
    ((Booking.onCaptured now id).after s).reservations =
      ((Reservations.change now .confirm id).after s).reservations := by
  have hnotice (r : Reservation) : (do
      Booking.notifyConfirmation r
      return r : Action Hotel BookingError Reservation).Moves (Same reservations) :=
    (notifyConfirmation_moves (fun _ _ _ => rfl) r).bind fun _ => .pure _
  have hsame := Moves.after_bind (x := (Reservations.change now .confirm id).mapError
    (BookingError.stepFailed .confirmReservation)) hnotice s
  rw [after_mapError] at hsame
  exact hsame

end

theorem reservations_keep {α : Type} (f : Hotel → α)
    (hstore : ∀ s id r, f (s.storeReservation id r) = f s)
    (hpublish : ∀ s e, f (s.published e) = f s) : Backend.ReservationsMove (Same f) :=
  reservationsMove_of hstore hpublish

theorem reservations_keep_payments : Backend.ReservationsMove (Same payments) :=
  reservations_keep payments (fun _ _ _ => rfl) fun _ _ => rfl

theorem reservations_keep_gateway : Backend.ReservationsMove (Same gateway) :=
  reservations_keep gateway (fun _ _ _ => rfl) fun _ _ => rfl

end HotelBooking.Hotel
