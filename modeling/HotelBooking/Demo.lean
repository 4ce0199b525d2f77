import HotelBooking.Booking.Pump
import HotelBooking.Config

/-!
# Demonstration

One booking of one room as configured, in one go or driven by events.
-/

namespace HotelBooking

namespace Demo

def roomId : RoomId := ⟨"room-101"⟩

def reservationId : ReservationId := ⟨"res-demo-1"⟩

def guest : Guest := ⟨"Grace Hopper", "grace@example.com", "+1-555-0199"⟩

def order (now : Instant) (c : Config) : Except ConfigError ReservationOrder := do
  return {
    reservationId
    guestId := ⟨"guest-demo"⟩
    roomId
    stay := ← c.stay now
    total := ← c.total
    guests := [guest] }

/-- How the booking ended, what is stored of it, and the topics of its events. -/
structure Report where
  error : Option BookingError
  reservation : Option Reservation
  payment : Option Payment
  topics : List String

/-- The booking went through. -/
def Report.succeeded (r : Report) : Bool :=
  r.error.isNone && r.reservation.any (·.status = .confirmed)

/-- Makes at most one operation of the gateway fail. -/
def applyFailure (failure : Option GatewayOperation) (g : Gateway) : Gateway :=
  { g with
    failsAuthorize := failure = some .authorize
    failsCapture := failure = some .capture
    failsRefund := failure = some .refund }

/-- Makes the booking; answers with its error and the topics of its events. -/
def book (now : Instant) (mode : BookingMode) (order : ReservationOrder) (s : Hotel) :
    (Option BookingError × List String) × Hotel :=
  match mode with
  | .orchestrated =>
    let paymentId := Booking.paymentIdFor order.reservationId
    match Booking.complete now ⟨order, paymentId, "card"⟩ s with
    | .ok _ t => ((none, t.log.topics), t)
    | .error e t => ((some e, t.log.topics), t)
  | .eventDriven =>
    match Booking.initiate now order s with
    | .ok _ t =>
      let (topics, t) := t.pump now
      ((none, topics), t)
    | .error e t => ((some e, []), t)

/-- Runs the demonstration. It is refused only if the price or the stay is not representable. -/
def run (now : Instant) (c : Config) : Action Hotel ConfigError Report := fun s =>
  match order now c with
  | .error e => .error e s
  | .ok order =>
    let ((error, topics), t) :=
      book now c.mode order { s with gateway := applyFailure c.gatewayFailure s.gateway }
    .ok
      { error
        reservation := t.reservations.entries[order.reservationId.text]?
        payment := t.payments.entries[(Booking.paymentIdFor order.reservationId).text]?
        topics }
      t

end Demo
end HotelBooking
