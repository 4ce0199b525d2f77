import HotelBooking.Operation.Payments
import HotelBooking.Operation.Reservations

/-!
# Booking in one go

`complete` runs the four steps of a booking. When the second or a later one fails, the reservation
is cancelled, and the payment is refunded if it was captured; both are tried even if one of them
fails. Guests are notified as far as that is possible.
-/

namespace HotelBooking

/-- A room to be booked and paid for. -/
structure BookingOrder where
  reservation : ReservationOrder
  paymentId : PaymentId
  method : String
  deriving DecidableEq

/-- The payment for the reservation. -/
def BookingOrder.payment (order : BookingOrder) : PaymentOrder where
  paymentId := order.paymentId
  reservationId := order.reservation.reservationId
  amount := order.reservation.total
  method := order.method

namespace Booking

variable {σ : Type} [Backend σ]

/-- Counts how a compensation ended and reports it if it failed. -/
def settle {α : Type} (action : Compensation) (result : Except OperationError α) :
    Action σ BookingError (List CompensationFailure) := do
  Backend.count (.compensations action result.isOk)
  match result with
  | .ok _ => return []
  | .error e => return [⟨action, e⟩]

/-- Undoes what was done before `step` failed, and reports the failure. -/
def compensate {α : Type} (now : Instant) (step : BookingStep) (source : OperationError)
    (reservationId : ReservationId) (captured : Option PaymentId) : Action σ BookingError α := do
  let refunds ← match captured with
    | some id => settle .refundPayment (← (Payments.refund now id).attempt)
    | none => pure []
  let cancellations ← match step.cancellationReason with
    | some reason =>
      settle .cancelReservation (← (Reservations.cancel now reservationId reason).attempt)
    | none => pure []
  match refunds ++ cancellations with
  | [] => throw (.stepFailed step source)
  | failures => throw (.compensationFailed step source failures)

/-- Tells the guest of a confirmed reservation, as far as that is possible. -/
def notifyConfirmation (r : Reservation) : Action σ BookingError Unit := do
  let _ ← (Backend.sendConfirmation r).attempt

/-- Tells the guest of a cancelled reservation, as far as that is possible. -/
def notifyCancellation (r : Reservation) (reason : String) : Action σ BookingError Unit := do
  let _ ← (Backend.sendCancellation r reason).attempt

/-- The four steps, with their compensations. -/
def run (now : Instant) (order : BookingOrder) : Action σ BookingError Reservation := do
  let r ← (Reservations.create now order.reservation).mapError (.stepFailed .createReservation)
  match ← (Payments.authorize now order.payment).attempt with
  | .error e => compensate now .authorizePayment e r.id none
  | .ok p =>
    match ← (Payments.capture now p.id).attempt with
    | .error e => compensate now .capturePayment e r.id none
    | .ok _ =>
      match ← (Reservations.change now .confirm r.id).attempt with
      | .error e => compensate now .confirmReservation e r.id (some p.id)
      | .ok _ =>
        let confirmed ← (Reservations.get r.id).mapError .service
        notifyConfirmation confirmed
        return confirmed

/-- Books a room and pays for it. -/
def complete (now : Instant) (order : BookingOrder) : Action σ BookingError Reservation := do
  Backend.count .executions
  let result ← (run now order).attempt
  Backend.count .durations
  match result with
  | .ok _ => Backend.count .completed
  | .error e => Backend.count (.failed e.step?)
  Action.ofExcept result

/-- Cancels a reservation and tells the guest. Its payment is not looked at. -/
def cancel (now : Instant) (id : ReservationId) (reason : String) :
    Action σ BookingError Reservation := do
  let r ← (Reservations.cancel now id reason).mapError .service
  notifyCancellation r reason
  return r

end Booking
end HotelBooking
